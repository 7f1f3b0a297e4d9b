import Courier.Bytes.Percent
import Courier.Text.Lower
import Courier.Text.Split

/-!
# Parameters of a media type

A media type is followed by parameters, each a name and a value behind a
semicolon. A value may stand in double quotes, in which a semicolon does not
count. A long value may be cut into parts, whose names are numbered behind a
star, and a star at the end of a name tells that the value is percent-encoded.
A value with such a part starts with the names of its encoding and of its
language, each closed by a single quote.

Key definitions: `Parameter.Value`, `Parameter.all`, `Parameter.find?`, `Parameter.Fault`.
-/

namespace Courier.Parameter

/-- A value as it stands, or one with the name of its encoding, if that is told. -/
inductive Value where
  | plain (text : Text)
  | encoded (encoding : Text) (text : Text)
  deriving DecidableEq, Repr

/-- Why parameters cannot be read. -/
inductive Fault where
  /-- Of a value in parts, some parts have a number, and some have none; the first
  part that is unlike the first of all is the one with a number, or is not. -/
  | mixedParts (numbered : Bool)
  deriving DecidableEq, Repr

/-- The fault in words. -/
def Fault.message : Fault → Text
  | .mixedParts numbered =>
    let (later, first) := if numbered then ("int", "NoneType") else ("NoneType", "int")
    "'<' not supported between instances of ".toList ++ Text.quoted later.toList ++
      " and ".toList ++ Text.quoted first.toList

/-- The pieces of a value between the semicolons outside double quotes; `quoted`
tells whether the text starts inside a pair. A backslash takes the meaning off a
quote after it. -/
def pieces : (quoted : Bool) → Text → List Text
  | _, [] => [[]]
  | quoted, '\\' :: '"' :: cs => attach '\\' (attach '"' (pieces quoted cs))
  | quoted, c :: cs =>
    if c = ';' && !quoted then [] :: pieces false cs
    else attach c (pieces (if c = '"' then !quoted else quoted) cs)
where
  /-- The character put before the first piece. -/
  attach (c : Char) : List Text → List Text
    | [] => [[c]]
    | piece :: rest => (c :: piece) :: rest

/-- The name and the value in a piece, which is all name when it has no equals sign. -/
def ofPiece (piece : Text) : Text × Text :=
  match Text.cut '=' piece with
  | some (name, value) => (Text.lower (Text.trim name), Text.trim value)
  | none => (Text.trim piece, [])

/-- The text with one backslash for each pair of them. -/
def halveBackslashes : Text → Text
  | '\\' :: '\\' :: cs => '\\' :: halveBackslashes cs
  | c :: cs => c :: halveBackslashes cs
  | [] => []

/-- The text without the backslashes before double quotes. -/
def bareQuotes : Text → Text
  | '\\' :: '"' :: cs => '"' :: bareQuotes cs
  | c :: cs => c :: bareQuotes cs
  | [] => []

/-- The text without a pair of quotes or angle brackets around it. -/
def unwrap (t : Text) : Text :=
  if 1 < t.length && t.head? = some '"' && t.getLast? = some '"' then
    bareQuotes (halveBackslashes (t.drop 1).dropLast)
  else if 1 < t.length && t.head? = some '<' && t.getLast? = some '>' then (t.drop 1).dropLast
  else t

/-! ### Values in parts -/

/-- A part of a value. -/
structure Part where
  number : Option Nat
  text : Text
  /-- Is the part percent-encoded? -/
  encoded : Bool
  deriving DecidableEq, Repr

/-- The number in the rest of a name after its first star, if the rest is one that a part has. -/
def partNumber? (t : Text) : Option (Option Nat) :=
  let ds := t.takeWhile Char.isDigit
  if t = [] then some none
  else if ds != [] && (t.drop ds.length == [] || t.drop ds.length == ['*']) then
    some (some (ds.foldl (fun n d => 10 * n + (d.toNat - 48)) 0))
  else none

/-- The name of the whole value and the part, if the name is that of a part. -/
def part? (name value : Text) : Option (Text × Part) :=
  match Text.cut '*' name with
  | none => none
  | some (whole, rest) =>
    if whole != [] && whole.all fun c => c.isAlphanum || c == '_' then
      (partNumber? rest).map fun number => (whole, ⟨number, value, name.getLast? == some '*'⟩)
    else none

/-- Does the first text come before the second, or is it the same? -/
def inOrder : Text → Text → Bool
  | [], _ => true
  | _ :: _, [] => false
  | a :: as, b :: bs => if a = b then inOrder as bs else a.toNat < b.toNat

/-- Does the first part come before the second, or in its place? -/
def Part.inOrder (p q : Part) : Bool :=
  if p.number = q.number then
    if p.text = q.text then !p.encoded || q.encoded else Parameter.inOrder p.text q.text
  else p.number.getD 0 < q.number.getD 0

/-- The text of a part. -/
def Part.plainText (p : Part) : Text :=
  if p.encoded then
    (Percent.runs p.text).flatMap fun run =>
      if run.all Percent.isAscii then (Percent.octets run).map fun b => .ofNat b.toNat else run
  else p.text

/-- The value that parts make, put in their order. -/
def assemble (parts : List Part) : Except Fault Value :=
  let numbered (p : Part) : Bool := p.number.isSome
  let first := (parts.head?.map numbered).getD true
  if parts.all (numbered · == first) then
    let text := (parts.mergeSort Part.inOrder).flatMap Part.plainText
    if parts.any (·.encoded) then
      match (Text.cut '\'' text).bind fun (encoding, rest) =>
          (Text.cut '\'' rest).map fun (_, text) => (encoding, text) with
      | some (encoding, text) => .ok (.encoded encoding text)
      | none => .ok (.encoded [] text)
    else .ok (.plain text)
  else .error (.mixedParts !first)

/-! ### All parameters -/

/-- The parameters behind a media type, and the media type itself first. Values
in parts come after the others, in the order of their first parts. -/
def all (t : Text) : Except Fault (List (Text × Value)) := do
  match (pieces false t).map ofPiece with
  | [] => return []
  | (name, value) :: rest =>
    let parts := rest.filterMap fun (name, value) => part? name (unwrap value)
    let whole := rest.filter fun (name, value) => part? name value = none
    let joined ← ((parts.map Prod.fst).eraseDups).mapM fun name =>
      (assemble ((parts.filter (·.1 == name)).map Prod.snd)).map fun value => (name, value)
    return ((name, value) :: whole).map (fun (name, value) => (name, .plain (unwrap value))) ++
      joined

/-- The value of the parameter of a name in small letters. -/
def find? (t name : Text) : Except Fault (Option Value) :=
  (all t).map fun parameters =>
    (parameters.find? fun parameter => Text.lower parameter.1 == name).map Prod.snd

end Courier.Parameter
