import Courier.Text.Split

/-!
# Paragraphs

A paragraph is set in lines of a given length. A line may end between two
words, and after a hyphen with two letters on either side of it. A word that is
longer than a line starts where the line has room and is cut where it is full.

Key definitions: `Paragraph.chunks`, `Paragraph.lines`.
-/

namespace Courier.Paragraph

/-- The pieces of the rest of a word that may stand on lines of their own; `piece` is what
comes before the rest, last character first. -/
def breakFrom : (piece : Text) → Text → List Text
  | piece, [] => if piece = [] then [] else [piece.reverse]
  | piece, c :: cs =>
    let letters (t : Text) : Bool := (t.take 2).length == 2 && (t.take 2).all Char.isAlpha
    if c = '-' && letters piece && letters cs then (c :: piece).reverse :: breakFrom [] cs
    else breakFrom (c :: piece) cs

/-- The pieces of a paragraph that may stand on lines of their own, the spaces among them. -/
def chunks (t : Text) : List Text :=
  [[' ']].intercalate ((Text.words t).map (breakFrom []))

/-- As many chunks as fit on a line with so many characters, and the others. -/
def fitting (width : Nat) : (used : Nat) → List Text → List Text × List Text
  | _, [] => ([], [])
  | used, chunk :: rest =>
    if used + chunk.length ≤ width then
      let (line, rest) := fitting width (used + chunk.length) rest
      (chunk :: line, rest)
    else ([], chunk :: rest)

/-- The chunks of the next line, and the chunks that are left; a chunk that is longer than
a line is cut. -/
def nextLine (width : Nat) (chunks : List Text) : List Text × List Text :=
  let (line, rest) := fitting width 0 chunks
  match rest with
  | [] => (line, [])
  | chunk :: rest =>
    if width < chunk.length then
      let space := width - line.flatten.length
      (line ++ [chunk.take space], chunk.drop space :: rest)
    else (line, chunk :: rest)

/-- Is there nothing but white space in the chunk? -/
def isBlank (chunk : Text) : Bool := chunk.all Text.isBlank

/-- The lines of chunks, `fuel` of them at most; white space at the end of a line is
dropped, and at the start of all lines but the first. -/
def linesOf (width : Nat) : (fuel : Nat) → List Text → List Text
  | 0, _ => []
  | fuel + 1, chunks =>
    if chunks = [] then []
    else
      let (line, rest) := nextLine width chunks
      let line := if (line.getLast?.map isBlank).getD false then line.dropLast else line
      let rest := if (rest.head?.map isBlank).getD false then rest.tail else rest
      (if line = [] then [] else [line.flatten]) ++ linesOf width fuel rest

/-- A paragraph in lines of so many characters. -/
def lines (width : Nat) (t : Text) : List Text := linesOf width (t.length + 1) (chunks t)

end Courier.Paragraph
