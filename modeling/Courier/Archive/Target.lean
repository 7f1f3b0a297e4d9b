import Courier.Archive.Name
import Courier.Archive.Staging
import Courier.Tree.Folders

/-!
# Delivering an archive into a folder

A body is staged in the target folder and then linked to the first candidate
of its name that is free, so an entry that stands is never overwritten, and
either the whole body is saved or nothing is.

Key definitions: `Target`, `Archive.claim`, `Target.deliver`.
-/

namespace Courier

namespace Archive

/-- Links the temporary file to the first free candidate from number `n` on,
among the next `fuel` candidates. -/
def claimFrom (temp wanted : Path) : (fuel n : Nat) → Act Tree Path
  | 0, _ => fun t => (.error (Tree.refuseBoth temp wanted.text .exists), t)
  | fuel + 1, n => fun t =>
    match candidate wanted n with
    | .error f => (.error f, t)
    | .ok p =>
      match t.link temp p.text with
      | .ok t' => (.ok p, t')
      | .error (.system .exists _ _) => claimFrom temp wanted fuel (n + 1) t
      | .error f => (.error f, t)

/-- Links the temporary file to the first free candidate. The tree cannot hold
more of them than it has entries, so the search ends. -/
def claim (temp wanted : Path) : Act Tree Path := fun t =>
  claimFrom temp wanted (t.entries.length + 2) 0 t

end Archive

/-- Where archives are saved: the folder, and the name for an archive that has
none of its own. -/
structure Target where
  folder : Path
  fallback : Text
  deriving DecidableEq, Repr

/-- The tree into which archives are delivered, with the path of the latest one. -/
structure Depot where
  tree : Tree
  lastSaved : Option Path
  deriving Repr

namespace Target

/-- The path at which an archive of the given name is wanted. -/
def wanted (target : Target) (fileName : Text) : Path :=
  target.folder.join (.ofText (Archive.safeName fileName target.fallback))

/-- Saves a body in the target folder, making the folder where it is missing,
and gives the path of the new file. -/
def save (target : Target) (body : Bytes) (fileName : Text) : Act Tree Path := fun t =>
  match Tree.makeFolders target.folder t with
  | (.error f, t) => (.error f, t)
  | (.ok (), t) =>
    Archive.withStaged body target.folder (fun temp => Archive.claim temp (target.wanted fileName)) t

/-- Saves a body and remembers where. -/
def deliver (target : Target) (body : Bytes) (fileName : Text) : Act Depot Path := fun d =>
  match target.save body fileName d.tree with
  | (.ok p, t) => (.ok p, ⟨t, some p⟩)
  | (.error f, t) => (.error f, { d with tree := t })

end Target
end Courier
