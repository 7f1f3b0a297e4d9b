import Courier.Decimal.Reader
import Courier.Text.Quoted

/-!
# Counts in digits

A count is told in digits and nothing else. Some digits are no decimal ones, such
as those of a power; a text with one of them looks like a count and is none, and
neither is one with too many decimal digits.

Key definitions: `Decimal.IntFault`, `Decimal.isAnyDigit`, `Decimal.count?`.
-/

namespace Courier.Decimal

/-- The digits that are no decimal ones: raised, lowered and framed digits, and those of
numbers that are not written place by place. -/
def otherDigits : List (Nat × Nat) :=
  [(0xB2, 0xB3), (0xB9, 0xB9), (0x1369, 0x1371), (0x19DA, 0x19DA), (0x2070, 0x2070),
    (0x2074, 0x2079), (0x2080, 0x2089), (0x2460, 0x2468), (0x2474, 0x247C), (0x2488, 0x2490),
    (0x24EA, 0x24EA), (0x24F5, 0x24FD), (0x24FF, 0x24FF), (0x2776, 0x277E), (0x2780, 0x2788),
    (0x278A, 0x2792), (0x10A40, 0x10A43), (0x10E60, 0x10E68), (0x11052, 0x1105A),
    (0x1F100, 0x1F10A)]

/-- Is the character a decimal digit? -/
def isDecimal (c : Char) : Bool := (digit? c).isSome

/-- Is the character a digit of any kind? -/
def isAnyDigit (c : Char) : Bool :=
  isDecimal c || otherDigits.any fun range => range.1 ≤ c.toNat && c.toNat ≤ range.2

/-- Why digits make no integer. -/
inductive IntFault where
  /-- One of them is no decimal digit. -/
  | malformed (digits : Text)
  /-- There are too many of them. -/
  | tooLong (length : Nat)
  deriving DecidableEq, Repr

/-- The most characters of a text that are shown when it makes no integer. -/
def maxShown : Nat := 200

/-- The fault in words. -/
def IntFault.message : IntFault → Text
  | .malformed digits =>
    "invalid literal for int() with base 10: ".toList ++ (Text.quoted digits).take maxShown
  | .tooLong length =>
    "Exceeds the limit (".toList ++ Text.ofNat maxDigits ++
      " digits) for integer string conversion: value has ".toList ++ Text.ofNat length ++
      " digits; use sys.set_int_max_str_digits() to increase the limit".toList

/-- The count that a text of digits tells; other texts tell none. -/
def count? (t : Text) : Except IntFault (Option Nat) :=
  if t = [] || !t.all isAnyDigit then .ok none
  else
    let leading := t.takeWhile isDecimal
    if maxDigits < leading.length then .error (.tooLong leading.length)
    else if leading.length < t.length then .error (.malformed t)
    else .ok (some (natOfDigits (t.map plainDigit)))

end Courier.Decimal
