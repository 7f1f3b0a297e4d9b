import Courier.Text.Printable

/-!
# Quoted texts

The form in which messages quote a text. It stands in single quotes, unless
it holds a single quote and no double one. The quote, the backslash, the line
feed, the carriage return and the tab are escaped by a backslash; any other
character that does not show is written by its code in two, four or eight
small hexadecimal digits.

Key definitions: `Text.quoted`, `Text.quotedPoints`.
-/

namespace Courier.Text

/-- The small hexadecimal digit of a number below sixteen. -/
def hexDigit (n : Nat) : Char := Nat.digitChar n

/-- The last `width` hexadecimal digits of `n`. -/
def hexDigits : (width : Nat) → (n : Nat) → Text
  | 0, _ => []
  | w + 1, n => hexDigits w (n / 16) ++ [hexDigit (n % 16)]

/-- The quote in which a text is set. -/
def quoteOf (t : Text) : Char :=
  if t.contains '\'' && !t.contains '"' then '"' else '\''

/-- A code point written by its number. -/
def escapedPoint (n : Nat) : Text :=
  if n < 0x100 then '\\' :: 'x' :: hexDigits 2 n
  else if n < 0x10000 then '\\' :: 'u' :: hexDigits 4 n
  else '\\' :: 'U' :: hexDigits 8 n

/-- One character of a quoted text, inside the quotes `q`. -/
def quotedChar (q c : Char) : Text :=
  if c = q || c = '\\' then ['\\', c]
  else if c = '\n' then ['\\', 'n']
  else if c = '\r' then ['\\', 'r']
  else if c = '\t' then ['\\', 't']
  else if isPrintable c then [c]
  else escapedPoint c.toNat

/-- The text as messages quote it. -/
def quoted (t : Text) : Text :=
  let q := quoteOf t
  q :: t.flatMap (quotedChar q) ++ [q]

/-- Code points as messages quote them. A code point that is no character of its own,
being half of one, is written by its number. -/
def quotedPoints (points : List Nat) : Text :=
  let q := quoteOf (points.map Char.ofNat)
  q :: points.flatMap (fun n => if n.isValidChar then quotedChar q (.ofNat n) else escapedPoint n) ++
    [q]

end Courier.Text
