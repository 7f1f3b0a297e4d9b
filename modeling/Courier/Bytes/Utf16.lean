import Courier.Bytes.Utf8

/-!
# UTF-16 with the low byte first

Two bytes make a unit, and a character is a unit or a pair of surrogates. In
lenient reading a surrogate without its partner is shown as one U+FFFD, and so
is whatever is left at the end.

Key definitions: `Utf16.decodeLossy`, `Utf16.decode?`.
-/

namespace Courier.Utf16

/-- A unit from its two bytes. -/
def unit (low high : UInt8) : Nat := low.toNat + 0x100 * high.toNat

/-- Is the unit the first of a pair? -/
def isFirst (n : Nat) : Bool := 0xD800 ≤ n && n < 0xDC00

/-- Is the unit the second of a pair? -/
def isSecond (n : Nat) : Bool := 0xDC00 ≤ n && n < 0xE000

/-- The text that a byte sequence spells. -/
def decodeLossy : Bytes → Text
  | [] => []
  | [_] => ['\ufffd']
  | a :: b :: rest =>
    if isSecond (unit a b) then '\ufffd' :: decodeLossy rest
    else if !isFirst (unit a b) then .ofNat (unit a b) :: decodeLossy rest
    else
      match rest with
      | c :: d :: rest' =>
        if isSecond (unit c d) then
          .ofNat (0x10000 + (unit a b - 0xD800) * 0x400 + (unit c d - 0xDC00)) ::
            decodeLossy rest'
        else '\ufffd' :: decodeLossy (c :: d :: rest')
      | _ => ['\ufffd']

/-- The text that a byte sequence spells, if all of it can be read. -/
def decode? : Bytes → Option Text
  | [] => some []
  | [_] => none
  | a :: b :: rest =>
    if isSecond (unit a b) then none
    else if !isFirst (unit a b) then (decode? rest).map (.ofNat (unit a b) :: ·)
    else
      match rest with
      | c :: d :: rest' =>
        if isSecond (unit c d) then
          (decode? rest').map
            (.ofNat (0x10000 + (unit a b - 0xD800) * 0x400 + (unit c d - 0xDC00)) :: ·)
        else none
      | _ => none

end Courier.Utf16
