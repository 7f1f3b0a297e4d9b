import Courier.Text.Width

/-!
# Characters that are shown as one

Some characters stand on the one before them and share its cells: marks that
take no cell, the mark that asks for the picture of a sign, and whatever a
joiner ties on. A character with all that stands on it is a cluster, and a text
is never cut within one. The width of a text is that of its clusters, but that
a joiner at its very start takes the next character out of the count.

Key definitions: `Text.Cluster`, `Text.clusters`, `Text.width`, `Text.fitWidth`.
-/

namespace Courier.Text

/-- Ties the next character to the one before it. -/
def joiner : Char := '\u200d'

/-- Asks for the picture of the sign before it. -/
def pictureMark : Char := '\ufe0f'

/-- Characters that are shown as one, and the cells that they take together. -/
structure Cluster where
  text : Text
  cells : Nat
  deriving DecidableEq, Repr

/-- What stands on a character, and the text after that. The first picture mark
takes a cell more when the character has a picture to be shown. -/
def standing (picture : Bool) : Text → Cluster × Text
  | [] => (⟨[], 0⟩, [])
  | c :: rest =>
    if c = joiner then
      match rest with
      | [] => (⟨[c], 0⟩, [])
      | tied :: rest =>
        let (more, after) := standing picture rest
        (⟨c :: tied :: more.text, more.cells⟩, after)
    else if c = pictureMark then
      let (more, after) := standing false rest
      (⟨c :: more.text, more.cells + if picture then 1 else 0⟩, after)
    else if charWidth c = 0 then
      let (more, after) := standing picture rest
      (⟨c :: more.text, more.cells⟩, after)
    else (⟨[], 0⟩, c :: rest)

/-- Nothing is lost: the text is what stands on the character and what comes after. -/
theorem standing_append (picture : Bool) (t : Text) :
    (standing picture t).1.text ++ (standing picture t).2 = t := by
  fun_induction standing picture t <;> simp_all

theorem standing_length (picture : Bool) (t : Text) : (standing picture t).2.length ≤ t.length := by
  have h := congrArg List.length (standing_append picture t)
  rw [List.length_append] at h
  omega

/-- The clusters of a text. -/
def clusters : Text → List Cluster
  | [] => []
  | c :: rest =>
    let more := (standing (hasPicture c) rest).1
    ⟨c :: more.text, charWidth c + more.cells⟩ :: clusters (standing (hasPicture c) rest).2
termination_by t => t.length
decreasing_by exact Nat.lt_succ_of_le (standing_length _ _)

/-- The cells that clusters take together. -/
def cells (ks : List Cluster) : Nat := ks.foldl (fun n k => n + k.cells) 0

/-- The number of cells that a text takes. -/
def width : Text → Nat
  | [] => 0
  | [c] => charWidth c
  | c :: d :: rest => if c = joiner then width rest else cells (clusters (c :: d :: rest))

/-- As many of the first clusters as fit into so many cells. -/
def firstClusters : Nat → List Cluster → List Cluster
  | _, [] => []
  | n, k :: ks => if k.cells ≤ n then k :: firstClusters (n - k.cells) ks else []

/-- The text brought to so many cells: cropped, and filled up with spaces. -/
def fitWidth (n : Nat) (t : Text) : Text :=
  if width t ≤ n then t ++ List.replicate (n - width t) ' '
  else if n = 0 then []
  else
    let kept := firstClusters n (clusters t)
    kept.flatMap Cluster.text ++ List.replicate (n - cells kept) ' '

end Courier.Text
