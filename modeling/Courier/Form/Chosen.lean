import Courier.Form
import Courier.Tree

/-!
# Files that the user chose

A form is filled from the paths that the user gives: each chosen file is read
as a whole, and its media type follows from its name. A command checks before
that each path leads to a file.

Key definitions: `Part.fromPath`, `Form.fromPaths`, `Form.checkInput`.
-/

namespace Courier

/-- The file at a path as a part of a form. -/
def Part.fromPath (t : Tree) (p : Path) : Except Fault Part :=
  (t.read p).map fun bytes => ⟨p.name, bytes, MediaType.ofName p.name⟩

namespace Form

/-- The path that a text names; an empty text chooses nothing. -/
def chosen? : Option Text → Option Path
  | none | some [] => none
  | some t => some (.ofText t)

/-- The part at a path, where one is chosen. -/
def partAt (t : Tree) : Option Path → Except Fault (Option Part)
  | none => .ok none
  | some p => (Part.fromPath t p).map some

/-- The form with the chosen files, the schema read first. -/
def fromPaths (t : Tree) (schema : Option Path) (project : Option Text)
    (overrides : Option Path) : Except Fault Form :=
  match partAt t schema with
  | .error f => .error f
  | .ok s =>
    match partAt t overrides with
    | .error f => .error f
    | .ok o => .ok ⟨s, some (project.getD []), o⟩

/-- The path of a chosen file with its home folder filled in, when it leads to a
file. The label tells the user which choice is at fault. -/
def checkInput (homeOf : Text → Option Text) (t : Tree) (label : Text) (p : Path) :
    Except Fault Path :=
  match p.expandHome homeOf with
  | .error f => .error f
  | .ok p =>
    match t.exists? p, t.isFile? p with
    | .error f, _ => .error f
    | .ok false, _ => .error (.unusable (label ++ " file does not exist: ".toList ++ p.text))
    | .ok true, .error f => .error f
    | .ok true, .ok false => .error (.unusable (label ++ " path is not a file: ".toList ++ p.text))
    | .ok true, .ok true => .ok p

end Form
end Courier
