import Courier.Text.Blank

/-!
# Lines

A text is cut into lines at each line break: the line feed, the carriage
return, both in a row, the vertical tab, the form feed, the separators U+001C
to U+001E, and the breaks U+0085, U+2028 and U+2029. A break at the end does
not open another line.

Key definitions: `Text.isBreak`, `Text.lines`.
-/

namespace Courier.Text

/-- Does the character end a line? -/
def isBreak (c : Char) : Bool :=
  let n := c.toNat
  (0x0A ≤ n && n ≤ 0x0D) || (0x1C ≤ n && n ≤ 0x1E) || n == 0x85 || n == 0x2028 || n == 0x2029

/-- The lines of a text whose first line starts with `line`, read so far in reverse. -/
def linesFrom (line : Text) : Text → List Text
  | [] => if line = [] then [] else [line.reverse]
  | '\r' :: '\n' :: cs => line.reverse :: linesFrom [] cs
  | c :: cs => if isBreak c then line.reverse :: linesFrom [] cs else linesFrom (c :: line) cs

/-- The lines of a text, without their breaks. -/
def lines (t : Text) : List Text := linesFrom [] t

end Courier.Text
