/-!
# Texts and the white space around them

A text is a list of characters: every rule of the library reads a text from
the front, and every law about one is an induction over the list. White
space is the Unicode class together with the four information separators
U+001C to U+001F; the zero-width space U+200B and the byte order mark U+FEFF
are not in it.

Key definitions: `Text`, `Text.isBlank`, `Text.trim`.
-/

namespace Courier

/-- A text, read from the front. -/
abbrev Text := List Char

namespace Text

/-- White space: what `trim` takes off the ends of a text. -/
def isBlank (c : Char) : Bool :=
  let n := c.toNat
  (0x09 ≤ n && n ≤ 0x0D) || (0x1C ≤ n && n ≤ 0x20) || n == 0x85 || n == 0xA0 || n == 0x1680 ||
    (0x2000 ≤ n && n ≤ 0x200A) || n == 0x2028 || n == 0x2029 || n == 0x202F || n == 0x205F ||
    n == 0x3000

/-- The text without the white space at its front. -/
def trimLeft (t : Text) : Text := t.dropWhile isBlank

/-- The text without the white space at its end. -/
def trimRight (t : Text) : Text := (t.reverse.dropWhile isBlank).reverse

/-- The text without the white space at either end. -/
def trim (t : Text) : Text := trimRight (trimLeft t)

/-- The text after `lead`, when it starts with it. -/
def dropLead? : Text → Text → Option Text
  | [], t => some t
  | _ :: _, [] => none
  | p :: ps, c :: cs => if p = c then dropLead? ps cs else none

/-- Does the text start with `lead`? -/
def startsWith (t lead : Text) : Bool := (dropLead? lead t).isSome

/-- The decimal digits of a natural number. -/
def ofNat (n : Nat) : Text := Nat.toDigits 10 n

/-- An integer in decimal, with a minus sign below zero. -/
def ofInt (n : Int) : Text :=
  if n < 0 then '-' :: ofNat n.natAbs else ofNat n.natAbs

end Text
end Courier
