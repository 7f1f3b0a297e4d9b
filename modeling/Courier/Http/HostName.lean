import Courier.Http.Label
import Courier.Text.Lower
import Courier.Text.Split

/-!
# Host names of many scripts

A host name is a row of labels with dots between them, for which other full
stops may stand. It is read in small letters. In a request each label stands in
ASCII characters, and neither a label nor the whole name may be too long.

Key definitions: `HostName.encode?`, `HostName.decode`, `HostName.Fault`.
-/

namespace Courier.HostName

/-- Why a name in ASCII characters stands for no name. -/
inductive Fault where
  | tooLong
  | label (fault : Label.Fault)
  deriving DecidableEq, Repr

/-- The fault in words. -/
def Fault.message : Fault → Text
  | .tooLong => "Domain too long".toList
  | .label fault => fault.message

/-- Does the character separate labels? -/
def isDot (c : Char) : Bool := c == '.' || c == '\u3002' || c == '\uff0e' || c == '\uff61'

/-- The longest name that ends in no dot. -/
def maxLength : Nat := 253

/-- The labels of a name, and whether a dot follows the last one. -/
def labels (t : Text) : List Text × Bool :=
  let pieces := Text.splitOn '.' (t.map fun c => if isDot c then '.' else c)
  if pieces.getLast? = some [] then (pieces.dropLast, true) else (pieces, false)

/-- A name from its labels. -/
def ofLabels (pieces : List Text) (dot : Bool) : Text :=
  ['.'].intercalate pieces ++ (if dot then ['.'] else [])

/-- A name as it stands in a request, if it is one. -/
def encode? (t : Text) : Option Text :=
  let small := Text.lower t
  if maxLength + 1 < small.length then none
  else
    let (pieces, dot) := labels small
    ((pieces.mapM Label.encode?).map (ofLabels · dot)).filter fun name =>
      name.length ≤ (if dot then maxLength + 1 else maxLength)

/-- The name that stands in ASCII characters. -/
def decode (t : Text) : Except Fault Text :=
  if maxLength + 1 < t.length then .error .tooLong
  else
    let (pieces, dot) := labels t
    ((pieces.mapM Label.decode).mapError .label).map fun labels =>
      ofLabels (labels.map fun label => label.map Char.ofNat) dot

end Courier.HostName
