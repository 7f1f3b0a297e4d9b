import Courier.Console.Drawing

/-!
# Breaking a text into lines

A text is shown on a screen of so many cells. It is broken before the words
that do not fit what is left of a line; a word takes the white space after it
along. A word that is wider than a whole line is cut into lines of its own, or
else kept in one and shortened. White space that reaches past the end of a line
is dropped. Lines may be filled up with spaces at either end.

Key definitions: `Console.words`, `Console.Overflow`, `Console.breakUp`, `Console.wrap`,
`Console.fillEnds`, `Console.fillStarts`.
-/

namespace Courier.Console

/-- What becomes of a word that is wider than a line. -/
inductive Overflow where
  /-- It goes on in the next line. -/
  | fold
  /-- Its end is cut off, and an ellipsis shows that. -/
  | ellipsis
  deriving DecidableEq, Repr

/-- The control characters that a screen never shows: the bell, the backspace,
the vertical tab, the form feed and the carriage return. -/
def isStripped (c : Char) : Bool :=
  let n := c.toNat
  n == 7 || n == 8 || n == 11 || n == 12 || n == 13

/-- A text without the control characters that are never shown. -/
def strip (t : Text) : Text := t.filter (!isStripped ·)

/-- The distance of tab stops in cells. -/
def tabStop : Nat := 8

/-- The parts of a line between its tabs, put together with spaces: each tab is
one space and as many more as the next stop asks for; `before` cells and `stops`
tab stops stand before the first part. No run goes on after a tab stop. -/
def expandTabs (before stops : Nat) : List Drawing → Drawing
  | [] => []
  | [part] => renewed part
  | part :: rest =>
    let reached := before + Text.width (Drawing.text part ++ [' '])
    let more := (tabStop - reached % tabStop) % tabStop
    renewed part ++ List.replicate (more + 1) ⟨' ', (renewed part).getLast?.bind Glyph.run⟩ ++
      expandTabs (reached + more) (stops + 1) rest
where
  /-- The part, with runs that are told from those of the other parts. -/
  renewed (part : Drawing) : Drawing := part.map fun g => { g with run := g.run.map (·.1, stops) }

/-- The words of a line, each with the white space after it and the first one
also with that before it. White space alone is no word. -/
def words (t : Text) : List Text :=
  let lead := t.takeWhile Text.isBlank
  match _ : t.dropWhile Text.isBlank with
  | [] => []
  | c :: cs =>
    let word := (c :: cs).takeWhile (!Text.isBlank ·)
    let rest := (c :: cs).dropWhile (!Text.isBlank ·)
    (lead ++ word ++ rest.takeWhile Text.isBlank) :: words (rest.dropWhile Text.isBlank)
termination_by t.length
decreasing_by
  rename_i h
  have h₁ : ((c :: cs).dropWhile (!Text.isBlank ·)).length < (c :: cs).length := by
    have hc : Text.isBlank c = false := by
      have := List.head?_dropWhile_not Text.isBlank t
      rw [h] at this
      simpa using this
    have : (cs.dropWhile (!Text.isBlank ·)).length ≤ cs.length :=
      (List.dropWhile_sublist _).length_le
    simp [List.dropWhile, hc]
    omega
  have h₂ : (((c :: cs).dropWhile (!Text.isBlank ·)).dropWhile Text.isBlank).length ≤
      ((c :: cs).dropWhile (!Text.isBlank ·)).length := (List.dropWhile_sublist _).length_le
  have h₃ : (c :: cs).length ≤ t.length := h ▸ (List.dropWhile_sublist _).length_le
  omega

/-- The clusters of a word cut into pieces of at most so many cells, of which
`used` are taken in the first piece. -/
def chop (width used : Nat) : List Text.Cluster → List Text
  | [] => [[]]
  | k :: ks =>
    if width < used + k.cells then [] :: attach k.text (chop width k.cells ks)
    else attach k.text (chop width (used + k.cells) ks)
where
  /-- The text put before the first piece. -/
  attach (t : Text) : List Text → List Text
    | [] => [t]
    | piece :: rest => (t ++ piece) :: rest

/-- The lines broken so far, in reverse; the latest one is open. -/
structure Broken where
  done : List Text
  line : Text
  /-- The cells that the open line takes, of those that count. -/
  used : Nat

/-- Breaks the line off, unless nothing has been put on any line yet. -/
def breakOff (b : Broken) : Broken :=
  if b.done = [] && b.line = [] then b else ⟨b.line :: b.done, [], 0⟩

/-- Puts a text on the open line, of which only the cells of the text count from now on. -/
def startWith (b : Broken) (t : Text) : Broken := { b with line := b.line ++ t, used := Text.width t }

/-- Adds a word. -/
def addWord (width : Nat) (overflow : Overflow) (b : Broken) (word : Text) : Broken :=
  let size := Text.width (Text.trimRight word)
  if b.used + size ≤ width then
    { b with line := b.line ++ word, used := b.used + Text.width word }
  else if width < size && overflow = .fold then
    (chop width 0 (Text.clusters word)).foldl (fun b piece => startWith (breakOff b) piece) b
  else startWith (breakOff b) word

/-- The text without as much of the white space at its end as it is too long by. -/
def dropOverhang (width : Nat) (t : Text) : Text :=
  let blanks := (t.reverse.takeWhile Text.isBlank).length
  t.take (t.length - min blanks (t.length - width))

/-- The text cut to so many cells where it is wider. -/
def shorten (overflow : Overflow) (width : Nat) (t : Text) : Text :=
  if Text.width t ≤ width then t
  else
    match overflow with
    | .fold => Text.fitWidth width t
    | .ellipsis => Text.fitWidth (width - 1) t ++ ['…']

/-- A line broken into pieces, which one after another are the line. -/
def breakUp (overflow : Overflow) (width : Nat) (line : Text) : List Text :=
  match words line with
  | [] => [line]
  | ws =>
    let b := ws.foldl (addWord width overflow) ⟨[], [], 0⟩
    (b.line :: b.done).reverse

/-- One line of a drawing broken into lines. -/
def wrapLine (overflow : Overflow) (width : Nat) (line : Drawing) : List Drawing :=
  let line := expandTabs 0 0 (Drawing.splitOn '\t' line)
  (Drawing.cutAs line (breakUp overflow width (Drawing.text line))).map fun piece =>
    Drawing.redrawn piece (dropOverhang width (Drawing.text piece))

/-- A drawing broken into lines; one that holds too wide a word is not shortened yet. -/
def brokenLines (overflow : Overflow) (width : Nat) (d : Drawing) : List Drawing :=
  (Drawing.splitOn '\n' (d.filter (!isStripped ·.char))).flatMap (wrapLine overflow width)

/-- A drawing broken into lines of at most so many cells. -/
def wrap (overflow : Overflow) (width : Nat) (d : Drawing) : List Drawing :=
  (brokenLines overflow width d).map fun line =>
    Drawing.redrawn line (shorten overflow width (Drawing.text line))

/-- The lines of a drawing, filled up at their ends to so many cells. -/
def fillEnds (overflow : Overflow) (width : Nat) (d : Drawing) : List Text :=
  (wrap overflow width d).map fun line => Drawing.fit width (Drawing.addSpaces width line)

/-- The lines of a drawing without the white space at their ends, filled up at their fronts
to so many cells. -/
def fillStarts (overflow : Overflow) (width : Nat) (d : Drawing) : List Text :=
  (brokenLines overflow width d).map fun line =>
    let short := shorten overflow width (Text.trimRight (Drawing.text line))
    let spaces := List.replicate (width - Text.width short) ' '
    Drawing.fit width (Drawing.plain spaces ++ Drawing.redrawn line short)

/-- Lines put one under the other. -/
def ended (lines : List Text) : Text := lines.flatMap (· ++ ['\n'])

end Courier.Console
