import Courier.Bytes.Utf8

/-!
# Percent-encoding

A percent sign and two hexadecimal digits stand for a byte. A text is decoded
run by run: the bytes of each longest run of ASCII characters are read as
UTF-8 on their own, and the characters between the runs stand for themselves.

Key definitions: `Percent.isSound`, `Percent.octets`, `Percent.runs`, `Percent.decode`,
`Percent.encode`.
-/

namespace Courier.Percent

/-- The value of a hexadecimal digit of either case. -/
def hexValue? (c : Char) : Option Nat :=
  if '0' ≤ c ∧ c ≤ '9' then some (c.toNat - 48)
  else if 'a' ≤ c ∧ c ≤ 'f' then some (c.toNat - 87)
  else if 'A' ≤ c ∧ c ≤ 'F' then some (c.toNat - 55)
  else none

/-- Is the character a hexadecimal digit? -/
def isHex (c : Char) : Bool := (hexValue? c).isSome

/-- The byte that the digits after a percent sign stand for. -/
def byte? (high low : Char) : Option UInt8 :=
  match hexValue? high, hexValue? low with
  | some h, some l => some (.ofNat (16 * h + l))
  | _, _ => none

/-- Do two hexadecimal digits come first? -/
def startsWithByte : Text → Bool
  | a :: b :: _ => isHex a && isHex b
  | _ => false

/-- Is every percent sign followed by two hexadecimal digits? -/
def isSound : Text → Bool
  | [] => true
  | c :: cs => (c != '%' || startsWithByte cs) && isSound cs

/-- The bytes that a text spells: each percent sequence its byte, each other
character its UTF-8. -/
def octets : Text → Bytes
  | [] => []
  | '%' :: a :: b :: cs =>
    match byte? a b with
    | some byte => byte :: octets cs
    | none => Utf8.encodeChar '%' ++ octets (a :: b :: cs)
  | c :: cs => Utf8.encodeChar c ++ octets cs

/-- Is the character an ASCII one? -/
def isAscii (c : Char) : Bool := c.toNat < 0x80

/-- The longest runs of ASCII characters and of others, in turn. -/
def runs (t : Text) : List Text := t.splitBy fun a b => isAscii a == isAscii b

/-- A run decoded: an ASCII run through its bytes, another as it stands. -/
def decodeRun (run : Text) : Except Utf8.Fault Text :=
  if run.all isAscii then Utf8.decode (octets run) else .ok run

/-- The text that a percent-encoded text spells, run by run; positions in a
fault count from the start of its run. -/
def decode (t : Text) : Except Utf8.Fault Text :=
  ((runs t).mapM decodeRun).map List.flatten

/-- A percent sign and the two capital hexadecimal digits of a byte. -/
def encodeByte (b : UInt8) : Text := '%' :: (Text.hexDigits 2 b.toNat).map Char.toUpper

/-- The text with each character that may not stand replaced by its encoded bytes. -/
def encode (mayStand : Char → Bool) (t : Text) : Text :=
  t.flatMap fun c => if mayStand c then [c] else (Utf8.encodeChar c).flatMap encodeByte

end Courier.Percent
