import Courier.Tree

/-!
# Making a folder and those above it

A folder is made together with the missing folders on the way to it. One that
stands already is no fault; folders made on the way stay when a later one
cannot be made. No more missing folders are made for one than the tree allows.

Key definitions: `Tree.ensureFolder`, `Tree.makeFolders`.
-/

namespace Courier.Tree

/-- Does the system refuse to make a folder only because it stands already? -/
def standsAlready (t : Tree) (p : Path) (f : Fault) : Bool :=
  match f with
  | .system .notFound _ _ => false
  | .system .. => (t.isFolder? p).toOption == some true
  | _ => false

/-- Makes a folder unless it stands already; the folder above must exist. -/
def ensureFolder (p : Path) : Act Tree Unit := fun t =>
  match t.makeFolder p with
  | .ok t' => (.ok (), t')
  | .error f => (if t.standsAlready p f then .ok () else .error f, t)

/-- Makes a folder and up to `n` missing folders above it. The folder without components
has none above it. -/
def makeFoldersUpTo : Nat → Path → Act Tree Unit
  | 0, p => if p.parts = [] then ensureFolder p else fun t => (.error .tooDeep, t)
  | n + 1, p => fun t =>
    match t.makeFolder p with
    | .error (.system .notFound _ _) =>
      match makeFoldersUpTo n p.parent t with
      | (.ok (), t') => ensureFolder p t'
      | (.error f, t') => (.error f, t')
    | _ => ensureFolder p t

/-- Makes a folder and all missing folders above it. -/
def makeFolders (p : Path) : Act Tree Unit := fun t =>
  makeFoldersUpTo (min p.parts.length (t.limit + 1)) p t

end Courier.Tree
