import Courier.Text.Cluster
import Courier.Text.Split

/-!
# Drawings

A text is drawn run by run: the characters between two changes of style are one
run, and each run is measured by itself. So a character and the mark that
stands on it take the cells of both when a style changes between them.

Key definitions: `Glyph`, `Drawing`, `Drawing.runs`, `Drawing.width`, `Drawing.fit`.
-/

namespace Courier.Console

/-- A character as it is drawn: plain, or in a run, which the number of style changes and
that of tab stops before it tell from others. -/
structure Glyph where
  char : Char
  run : Option (Nat × Nat)
  deriving DecidableEq, Repr

/-- Characters as they are drawn. -/
abbrev Drawing := List Glyph

namespace Drawing

/-- A text drawn plainly. -/
def plain (t : Text) : Drawing := t.map (⟨·, none⟩)

/-- The text of a drawing. -/
def text (d : Drawing) : Text := d.map Glyph.char

/-- The runs of a drawing. -/
def runs (d : Drawing) : List Text := (d.splitBy fun a b => a.run == b.run).map text

/-- The cells that runs take together. -/
def cells (runs : List Text) : Nat := runs.foldl (fun n run => n + Text.width run) 0

/-- The number of cells that a drawing takes. -/
def width (d : Drawing) : Nat := cells d.runs

/-- The drawing with another text: each place keeps its run, and new places are plain. -/
def redrawn : Drawing → Text → Drawing
  | _, [] => []
  | [], c :: cs => ⟨c, none⟩ :: redrawn [] cs
  | g :: d, c :: cs => ⟨c, g.run⟩ :: redrawn d cs

/-- The parts of a drawing that are as long as some texts, one after another. -/
def cutAs : Drawing → List Text → List Drawing
  | _, [] => []
  | d, t :: ts => d.take t.length :: cutAs (d.drop t.length) ts

/-- The parts of a drawing between the places of a character. -/
def splitOn (sep : Char) (d : Drawing) : List Drawing := Text.splitWhere (·.char = sep) d

/-- The drawing with the plain spaces at its end that its text is too short by. -/
def addSpaces (n : Nat) (d : Drawing) : Drawing :=
  d ++ plain (List.replicate (n - Text.width d.text) ' ')

/-- The runs that fit into so many cells; the one that reaches the end is cropped. -/
def cropRuns : Nat → List Text → List Text
  | _, [] => []
  | n, run :: rest =>
    if Text.width run < n then run :: cropRuns (n - Text.width run) rest
    else [Text.fitWidth n run]

/-- A drawing as a text of so many cells: cropped, and filled up with spaces. -/
def fit (n : Nat) (d : Drawing) : Text :=
  let kept := if d.width ≤ n then d.runs else cropRuns n d.runs
  kept.flatten ++ List.replicate (n - cells kept) ' '

end Drawing
end Courier.Console
