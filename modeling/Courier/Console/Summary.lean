import Courier.Console.Markup
import Courier.Console.Wrap
import Courier.Power
import Courier.Text.Lines
import Courier.Text.Table

/-!
# The summary panel

Before a form is sent, the settings in force are shown in a panel: a frame
with a title, and in it a row for each setting, its name at the right of a
first column and its value in a second one. Where both do not fit, the wider
column gives way first. Names and values may carry markup.

Key definitions: `Summary.Value`, `Summary.columnWidths`, `Summary.rows`, `Summary.render`.
-/

namespace Courier.Summary

open Console

/-- The value of a setting. -/
inductive Value where
  | absent
  | text (t : Text)
  | number (n : Int)
  | flag (b : Bool)
  deriving DecidableEq, Repr

/-- A value as it is shown. -/
def Value.shown : Value → Text
  | .absent => ['-']
  | .text t => t
  | .number n => Text.ofInt n
  | .flag b => (if b then "True" else "False").toList

/-- The title of the panel. -/
def title : Text := " crud-up ".toList

/-- The line under the panel. -/
def subtitle : Text := " CRUD project generator ".toList

/-- The space between the columns. -/
def gap : Nat := 2

/-- The width of a drawing whose lines are all shown. -/
def naturalWidth (d : Drawing) : Nat :=
  ((Text.lines (strip d.text)).map Text.width).foldl max 0

/-- Half of a number, a half going to the even neighbour. -/
def halfEven (n : Nat) : Nat := if n % 4 = 3 then n / 2 + 1 else n / 2

/-- Two column widths brought down to a sum: the wider one gives way until both
are equal, and then both do. -/
def level (a b most : Nat) : Nat × Nat :=
  let excess := a + b - most
  let (a, b) := if b < a then (a - min excess (a - b), b) else (a, b - min excess (b - a))
  let excess := a + b - most
  (a - halfEven excess, b - (excess - halfEven excess))

/-- The widths of the columns in a space of `most` cells, given the widths of
the widest name and the widest value. -/
def columnWidths (name value most : Nat) : Nat × Nat :=
  let a := if most < gap + 1 then most else min (name + gap) most
  let b := if value = 0 then 1 else min value most
  if a + b ≤ most then (a, b)
  else
    let (a', b') := level a b most
    (if a' < gap + 1 then a' else min (name + gap) a', min value b')

/-- The rows of one setting; each takes as many cells as both columns. A column
without room shows nothing. -/
def rows (a b : Nat) (name value : Drawing) : List Text :=
  let left := if a ≤ gap then [] else
    (fillStarts .ellipsis (a - gap) name).map (· ++ List.replicate gap ' ')
  let right := if b = 0 then [] else fillEnds .ellipsis b value
  (List.range (max 1 (max left.length right.length))).map fun i =>
    left.getD i (List.replicate a ' ') ++ right.getD i (List.replicate b ' ')

/-- A line of the frame with a text in its middle, if there is room for one; the spare
cell goes to the right. -/
def border (first last : Char) (text : Text) (width : Nat) : Text :=
  if width ≤ 4 then ([first] ++ List.replicate (width - 2) '─' ++ [last]).take width
  else
    let spare := width - 4 - Text.width text
    let text := Text.fitWidth (min (Text.width text) (width - 4)) text
    [first, '─'] ++ List.replicate (spare / 2) '─' ++ text ++
      List.replicate (spare - spare / 2) '─' ++ ['─', last]

/-- The lines of the panel in `width` cells, with `inner` between the sides of the frame. -/
def framed (width : Nat) (inner : List Text) : List Text :=
  [border '╭' '╮' title width] ++ inner.map (fun row => ['│', ' '] ++ row ++ [' ', '│']) ++
    [border '╰' '╯' subtitle width]

/-- The widths of the columns of a panel in `room` cells. -/
def columns (room : Nat) (items : List (Drawing × Drawing)) : Nat × Nat :=
  let widest (ds : List Drawing) := (ds.map naturalWidth).foldl max 0
  columnWidths (widest (items.map (·.1))) (widest (items.map (·.2))) room

/-- The lines of the panel in `width` cells, without markup. -/
def panel (width : Nat) (items : List (Drawing × Drawing)) : List Text :=
  let room := width - 4
  let (a, b) := columns room items
  framed width (items.flatMap fun item =>
    (rows a b item.1 item.2).map (· ++ List.replicate (room - (a + b)) ' '))

/-- The most spaces that a line is ever filled up with. -/
def mostSpaces : Nat := power 2 63 - 1

/-- Is a line of the panel to be filled up with more spaces than there can be? Nothing is
measured where the panel has room for no more than that. -/
def isTooWide (width : Nat) (items : List (Drawing × Drawing)) : Bool :=
  let room := width - 4
  mostSpaces < room &&
    let (a, b) := columns room items
    mostSpaces < room - (a + b)

/-- The names of settings without markup. Where the first column has room for nothing but
the gap, no name is read. -/
def names (room : Nat) (items : Table Value) : Except Fault (List Drawing) :=
  if room ≤ gap then .ok (items.map fun _ => []) else items.mapM fun item => Markup.drawn item.1

/-- The panel in `width` cells, each line ended. A frame without room in it stays empty, and
a screen without cells shows nothing; then no markup is read. Else that of all names is
read before that of the values, and only then it turns out whether the lines are too long. -/
def render (width : Nat) (items : Table Value) : Except Fault Text :=
  if width = 0 then .ok []
  else if width ≤ 4 then .ok (ended (framed width []))
  else do
    let names ← names (width - 4) items
    let values ← items.mapM fun item => Markup.drawn item.2.shown
    if isTooWide width (names.zip values) then .error .tooWide
    else .ok (ended (panel width (names.zip values)))

end Courier.Summary
