import Courier.Text.Quoted
import Courier.Text.Split

/-!
# Paths

A path is a number of leading slashes and a list of components. Reading one
from text drops empty components and the component `.`, and keeps `..`; of
several leading slashes one is left, but exactly two stay two. The last
component is the name. Its suffix starts at its last dot, unless that is the
name's first or last character.

Key definitions: `Path.ofText`, `Path.text`, `Path.name`, `Path.stem`,
`Path.suffix`, `Path.withName`, `Path.join`, `Path.absolute`.
-/

namespace Courier

/-- A path: its leading slashes and its components. -/
structure Path where
  slashes : Nat
  parts : List Text
  deriving DecidableEq, Repr

namespace Path

/-- The component that leads to the folder above. -/
def up : Text := ['.', '.']

/-- Does the piece of a path name a component? -/
def isComponent (piece : Text) : Bool := piece != [] && piece != ['.']

/-- The path that a text spells. -/
def ofText (t : Text) : Path where
  slashes :=
    match (t.takeWhile (· == '/')).length with
    | 0 => 0
    | 2 => 2
    | _ => 1
  parts := (Text.splitOn '/' t).filter isComponent

/-- The current folder. -/
def current : Path := ⟨0, []⟩

/-- The text of a path; the current folder is a dot. -/
def text (p : Path) : Text :=
  if p = current then ['.'] else List.replicate p.slashes '/' ++ ['/'].intercalate p.parts

/-- The last component, empty where there is none. -/
def name (p : Path) : Text := p.parts.getLast?.getD []

/-- The path without its last component. -/
def parent (p : Path) : Path := { p with parts := p.parts.dropLast }

/-- The number of characters of a name before its last dot, if it has one. -/
def lastDot? : Text → Option Nat
  | [] => none
  | c :: cs =>
    match lastDot? cs with
    | some n => some (n + 1)
    | none => if c = '.' then some 0 else none

/-- The number of characters in the stem of a name. -/
def stemLength (name : Text) : Nat :=
  match lastDot? name with
  | some n => if 0 < n ∧ n + 1 < name.length then n else name.length
  | none => name.length

/-- The part of the name before its suffix. -/
def stem (p : Path) : Text := p.name.take (stemLength p.name)

/-- The part of the name from its last dot on. -/
def suffix (p : Path) : Text := p.name.drop (stemLength p.name)

/-- The path with another last component. -/
def withName (p : Path) (name : Text) : Path := { p with parts := p.parts.dropLast ++ [name] }

/-- The second path, read from the folder that the first one names. -/
def join (p q : Path) : Path :=
  if q.slashes = 0 then { p with parts := p.parts ++ q.parts } else q

/-- One component more of a path in which `..` takes back the component before it. -/
def resolveStep (parts : List Text) (c : Text) : List Text :=
  if c = up then parts.dropLast else parts ++ [c]

/-- The path from the root, with each `..` resolved, of a path read from the folder `base`. -/
def absolute (base p : Path) : Path :=
  let whole := base.join p
  { whole with parts := whole.parts.foldl resolveStep [] }

/-- The name under which messages show a path. -/
def quoted (p : Path) : Text := "PosixPath(".toList ++ Text.quoted p.text ++ [')']

/-- The folder that a home folder's text names: its closing slashes do not
count, and nothing but slashes is the root. -/
def homeFolder (home : Text) : Path :=
  match (home.reverse.dropWhile (· == '/')).reverse with
  | [] => ⟨1, []⟩
  | t => ofText t

/-- The path with a first component that starts with a tilde replaced by the
home folder of the user named after it, as `homeOf` gives it; the empty name is
that of the user who runs the program. A home folder that itself starts with a
tilde counts as unknown. -/
def expandHome? (homeOf : Text → Option Text) (p : Path) : Option Path :=
  match p.slashes, p.parts with
  | 0, ('~' :: user) :: rest =>
    match homeOf user with
    | some ('~' :: _) | none => none
    | some home => some ((homeFolder home).join ⟨0, rest⟩)
  | _, _ => some p

end Path
end Courier
