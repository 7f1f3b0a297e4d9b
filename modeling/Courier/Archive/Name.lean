import Courier.Fault

/-!
# The name under which an archive is saved

Of the name that the server sends only the last component counts, with
backslashes read as slashes and white space at the ends taken off; where
nothing usable is left, the fallback stands in. Where the name is taken, a
number goes between its stem and its suffix: `name`, `name (1)`, `name (2)`.

Key definitions: `Archive.safeName`, `Archive.candidate`.
-/

namespace Courier.Archive

/-- A separator of any system read as a slash. -/
def slashed (c : Char) : Char := if c = '\\' then '/' else c

/-- Is the name one that cannot be saved under? -/
def isUnusable (name : Text) : Bool := name == [] || name == ['.'] || name == Path.up

/-- The trimmed last component of a file name, whatever the separators. -/
def lastComponent (fileName : Text) : Text :=
  Text.trim (Path.ofText (fileName.map slashed)).name

/-- The last component of a file name, or the fallback where that is unusable. -/
def safeName (fileName fallback : Text) : Text :=
  if isUnusable (lastComponent fileName) then fallback else lastComponent fileName

/-- The name with a number between its stem and its suffix. -/
def numbered (p : Path) (n : Nat) : Text :=
  p.stem ++ " (".toList ++ Text.ofNat n ++ [')'] ++ p.suffix

/-- The paths to try one after another: the wanted one, then those numbered from one on. -/
def candidate (p : Path) : Nat → Except Fault Path
  | 0 => .ok p
  | n + 1 => if p.name = [] then .error (.emptyName p) else .ok (p.withName (numbered p (n + 1)))

end Courier.Archive
