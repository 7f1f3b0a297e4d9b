import Courier.Decimal.Digit
import Courier.Binary

/-!
# Reading decimal numbers

A number is written with an optional sign, digits with at most one point among
or around them, and an optional exponent, in the digits of any script; single
underscores may stand between digits and white space around the whole. The
words for infinity and for no number are read in any case. The value is the
floating-point number nearest to what is written.

Key definitions: `Decimal.readFloat?`, `Decimal.readInt?`.
-/

namespace Courier.Decimal

/-- A character of a number with a digit of any script replaced by the ASCII one. -/
def plainDigit (c : Char) : Char :=
  match digit? c with
  | some n => Nat.digitChar n
  | none => c

/-- Is the character an ASCII digit? -/
def isDigit (c : Char) : Bool := c.isDigit

/-- The text without its underscores, if each of them stands between two digits.
The character before the text is `before`. -/
def dropUnderscores (before : Char) : Text → Option Text
  | [] => some []
  | '_' :: c :: cs =>
    if isDigit before && isDigit c then (dropUnderscores c cs).map (c :: ·) else none
  | c :: cs => if c = '_' then none else (dropUnderscores c cs).map (c :: ·)

/-- The number that ASCII digits spell. -/
def natOfDigits (ds : Text) : Nat := ds.foldl (fun n d => 10 * n + (d.toNat - 48)) 0

/-- A sign at the front of a text, and the rest. -/
def splitSign : Text → Bool × Text
  | '-' :: cs => (true, cs)
  | '+' :: cs => (false, cs)
  | cs => (false, cs)

/-- May the character stand around a number? White space may, but of the ASCII
characters only the space and those that move the pen. -/
def isMargin (c : Char) : Bool :=
  if c.toNat < 0x7F then c == ' ' || ('\t' ≤ c && c ≤ '\r') else Text.isBlank c

/-- The text in plain digits, without margins and underscores between digits. -/
def clean (t : Text) : Option Text :=
  let inner := ((t.dropWhile isMargin).reverse.dropWhile isMargin).reverse
  dropUnderscores ' ' (inner.map plainDigit)

/-- The most digits with which an integer is read. -/
def maxDigits : Nat := 4300

/-- The integer that a text spells. -/
def readInt? (t : Text) : Option Int :=
  (clean t).bind fun t =>
    let (negative, ds) := splitSign t
    if ds != [] && ds.all isDigit && ds.length ≤ maxDigits then
      some (if negative then -(natOfDigits ds : Int) else natOfDigits ds)
    else none

/-- A number as it is written: digits, how many of them follow the point, and
the exponent of ten. -/
structure Scientific where
  digits : Text
  places : Nat
  exponent : Int
  deriving DecidableEq, Repr

/-- The exponent at the end of a number, if what stands there is one. -/
def readExponent? : Text → Option Int
  | [] => some 0
  | c :: cs =>
    if c = 'e' || c = 'E' then
      let (negative, ds) := splitSign cs
      if ds != [] && ds.all isDigit then
        some (if negative then -(natOfDigits ds : Int) else natOfDigits ds)
      else none
    else none

/-- A number without a sign, as it is written. -/
def readScientific? (t : Text) : Option Scientific :=
  let whole := t.takeWhile isDigit
  let (fraction, rest) :=
    match t.dropWhile isDigit with
    | '.' :: cs => (cs.takeWhile isDigit, cs.dropWhile isDigit)
    | cs => ([], cs)
  if whole ++ fraction = [] then none
  else (readExponent? rest).map fun e => ⟨whole ++ fraction, fraction.length, e⟩

/-- The bit pattern of the number nearest to what is written. Numbers far
outside the range of the type are settled by their order of magnitude. -/
def Scientific.bits (s : Scientific) : Nat :=
  let ds := s.digits.dropWhile (· == '0')
  let scale := s.exponent - s.places
  let magnitude := scale + ds.length
  if ds = [] || magnitude < -400 then 0
  else if 400 < magnitude then Binary.infinityBits
  else if 0 ≤ scale then Binary.bitsOfQuotient (natOfDigits ds * power 10 scale.toNat) 1
  else Binary.bitsOfQuotient (natOfDigits ds) (power 10 (-scale).toNat)

/-- The bit pattern of one of the words for a number that is not finite. -/
def wordBits? (t : Text) : Option Nat :=
  let word := t.map Char.toLower
  if word = "inf".toList || word = "infinity".toList then some Binary.infinityBits
  else if word = "nan".toList then some (Binary.infinityBits + power 2 51)
  else none

/-- The floating-point number that a text spells. -/
def readFloat? (t : Text) : Option Float :=
  (clean t).bind fun t =>
    let (negative, t) := splitSign t
    ((wordBits? t).or ((readScientific? t).map Scientific.bits)).map (Binary.ofBits negative)

end Courier.Decimal
