import Courier.Power
import Courier.Tree

/-!
# Staging bytes in a temporary file

Bytes are first held in a temporary file in the folder where they are to end
up, under a name that nothing in the folder has. When the work on that file is
over, whatever came of it, the file is gone from the name.

The name holds a token of eight characters, which is drawn from the seed of the
tree; what is left of the seed serves the next file.

Key definitions: `Archive.tempName`, `Archive.tempPath`, `Archive.withStaged`.
-/

namespace Courier.Archive

/-- The characters of a token. -/
def alphabet : Text := "abcdefghijklmnopqrstuvwxyz0123456789_".toList

/-- The character of a number below the size of the alphabet. -/
def letter (n : Nat) : Char := alphabet.getD n '_'

/-- The lowest `k` places of a number in the alphabet. -/
def letters : (k : Nat) → (n : Nat) → Text
  | 0, _ => []
  | k + 1, n => letter (n % alphabet.length) :: letters k (n / alphabet.length)

/-- The number of characters of a token. -/
def tokenSize : Nat := 8

/-- The number of tokens. -/
def tokenCount : Nat := power alphabet.length tokenSize

/-- The token of a number. Numbers beyond those of the tokens go on with a number. -/
def token (n : Nat) : Text :=
  letters tokenSize n ++ (if n < tokenCount then [] else Text.ofNat (n / tokenCount))

/-- The name of a temporary file with the token of a number. -/
def tempName (n : Nat) : Text := ".crud-up-".toList ++ token n ++ ".part".toList

/-- The first number from `n` on whose temporary name is free in the folder,
among the next `fuel` numbers. -/
def freeNumber (t : Tree) (folder : Route) : (fuel n : Nat) → Nat
  | 0, n => n
  | fuel + 1, n =>
    if (t.entry? (tempName n :: folder)).isSome then freeNumber t folder fuel (n + 1) else n

/-- The path of the next temporary file in a folder. Of as many names as the
tree has entries, and one more, some name is free. -/
def tempPath (t : Tree) (directory : Path) : Path :=
  let folder := Path.absolute t.basePath directory
  folder.join ⟨0, [tempName
    (freeNumber t folder.parts.reverse (t.entries.length + 1) (t.seed % tokenCount))]⟩

/-- The tree when a token was drawn. -/
def drawn (t : Tree) : Tree := { t with seed := t.seed / tokenCount }

/-- Creates a temporary file that holds the bytes, and gives its path. -/
def stage (body : Bytes) (directory : Path) : Act Tree Path := fun t =>
  let temp := tempPath t directory
  match t.create temp body with
  | .ok t' => (.ok temp, drawn t')
  | .error f => (.error f, t)

/-- Removes a temporary file, unless it is gone already. -/
def discard (temp : Path) : Act Tree Unit := fun t =>
  match t.unlink temp with
  | .ok t' => (.ok (), t')
  | .error (.system .notFound _ _) => (.ok (), t)
  | .error f => (.error f, t)

/-- Runs an action on a temporary file that holds the bytes. The file is
removed afterwards, and the outcome of the action stays. -/
def withStaged {α : Type} (body : Bytes) (directory : Path) (inner : Path → Act Tree α) :
    Act Tree α := fun t =>
  match stage body directory t with
  | (.error f, t) => (.error f, t)
  | (.ok temp, t) =>
    let (outcome, t) := inner temp t
    match discard temp t with
    | (.ok (), t) => (outcome, t)
    | (.error f, t) => (.error f, t)

end Courier.Archive
