import Courier.Text.Quoted

/-!
# UTF-8

A byte sequence is cut into pieces, each a well-formed character or a run of
bytes that starts none: the longest run that a character could still begin
with, or a single byte. Strict reading fails at the first bad piece and says
where it stands and why; lenient reading shows each bad piece as one U+FFFD.

Key definitions: `Utf8.encode`, `Utf8.pieces`, `Utf8.decode`, `Utf8.decodeLossy`.
-/

namespace Courier

/-- A byte sequence. -/
abbrev Bytes := List UInt8

namespace Utf8

/-- The bytes of one character. -/
def encodeChar (c : Char) : Bytes :=
  let n := c.toNat
  if n < 0x80 then [.ofNat n]
  else if n < 0x800 then [.ofNat (0xC0 + n / 0x40), .ofNat (0x80 + n % 0x40)]
  else if n < 0x10000 then
    [.ofNat (0xE0 + n / 0x1000), .ofNat (0x80 + n / 0x40 % 0x40), .ofNat (0x80 + n % 0x40)]
  else
    [.ofNat (0xF0 + n / 0x40000), .ofNat (0x80 + n / 0x1000 % 0x40),
      .ofNat (0x80 + n / 0x40 % 0x40), .ofNat (0x80 + n % 0x40)]

/-- The bytes of a text. -/
def encode (t : Text) : Bytes := t.flatMap encodeChar

/-- The number of bytes of a text. -/
def size (t : Text) : Nat := (encode t).length

/-- Why a run of bytes is no character. -/
inductive Cause where
  /-- The first byte starts no character. -/
  | badStart
  /-- The byte after the run does not continue the character that it begins. -/
  | badContinuation
  /-- The bytes end inside a character. -/
  | cutShort
  deriving DecidableEq, Repr

/-- A piece of a byte sequence. -/
inductive Piece where
  /-- A character written in `width` bytes. -/
  | char (c : Char) (width : Nat)
  /-- A run of `width` bytes, the first of them `first`, that is no character. -/
  | bad (cause : Cause) (first : UInt8) (width : Nat)
  deriving DecidableEq, Repr

/-- Is the byte one that continues a character? -/
def isTail (b : UInt8) : Bool := 0x80 ≤ b.toNat && b.toNat < 0xC0

/-- May `b` stand second, after the first byte `a` of a character of three or
four bytes? Overlong forms, surrogates and numbers above U+10FFFF are refused here. -/
def fitsSecond (a b : UInt8) : Bool :=
  isTail b &&
    (if a = 0xE0 then 0xA0 ≤ b.toNat
      else if a = 0xED then b.toNat < 0xA0
      else if a = 0xF0 then 0x90 ≤ b.toNat
      else if a = 0xF4 then b.toNat < 0x90
      else true)

/-- The bits that a byte after the first carries. -/
def tailBits (b : UInt8) : Nat := b.toNat - 0x80

/-- The pieces of a byte sequence. -/
def pieces : Bytes → List Piece
  | [] => []
  | a :: r =>
    if a.toNat < 0x80 then .char (.ofNat a.toNat) 1 :: pieces r
    else if a.toNat < 0xC2 || 0xF5 ≤ a.toNat then .bad .badStart a 1 :: pieces r
    else if a.toNat < 0xE0 then
      match r with
      | [] => [.bad .cutShort a 1]
      | b :: r₁ =>
        if isTail b then .char (.ofNat ((a.toNat - 0xC0) * 0x40 + tailBits b)) 2 :: pieces r₁
        else .bad .badContinuation a 1 :: pieces (b :: r₁)
    else
      match r with
      | [] => [.bad .cutShort a 1]
      | b :: r₁ =>
        if !fitsSecond a b then .bad .badContinuation a 1 :: pieces (b :: r₁)
        else
          match r₁ with
          | [] => [.bad .cutShort a 2]
          | c :: r₂ =>
            if !isTail c then .bad .badContinuation a 2 :: pieces (c :: r₂)
            else if a.toNat < 0xF0 then
              .char (.ofNat ((a.toNat - 0xE0) * 0x1000 + tailBits b * 0x40 + tailBits c)) 3 ::
                pieces r₂
            else
              match r₂ with
              | [] => [.bad .cutShort a 3]
              | d :: r₃ =>
                if !isTail d then .bad .badContinuation a 3 :: pieces (d :: r₃)
                else
                  .char (.ofNat ((a.toNat - 0xF0) * 0x40000 + tailBits b * 0x1000 +
                    tailBits c * 0x40 + tailBits d)) 4 :: pieces r₃

/-- What stops a strict reading: the bad piece and the number of bytes before it. -/
structure Fault where
  cause : Cause
  first : UInt8
  width : Nat
  position : Nat
  deriving DecidableEq, Repr

/-- The text of pieces that stand after `position` bytes, if all are characters. -/
def textOfPieces (position : Nat) : List Piece → Except Fault Text
  | [] => .ok []
  | .char c w :: ps => (textOfPieces (position + w) ps).map (c :: ·)
  | .bad cause a w :: _ => .error ⟨cause, a, w, position⟩

/-- The text that a byte sequence spells; the first bad piece is a fault. -/
def decode (bs : Bytes) : Except Fault Text := textOfPieces 0 (pieces bs)

/-- The character that stands for a bad piece. -/
def Piece.toChar : Piece → Char
  | .char c _ => c
  | .bad .. => '\ufffd'

/-- The text that a byte sequence spells, each bad piece shown as one U+FFFD. -/
def decodeLossy (bs : Bytes) : Text := (pieces bs).map Piece.toChar

/-- The reason of a fault in words. -/
def Cause.words : Cause → Text
  | .badStart => "invalid start byte".toList
  | .badContinuation => "invalid continuation byte".toList
  | .cutShort => "unexpected end of data".toList

/-- The fault in words: the byte and its position, or the positions of several. -/
def Fault.message (f : Fault) : Text :=
  "'utf-8' codec can't decode ".toList ++
    (if f.width = 1 then
      "byte 0x".toList ++ Text.hexDigits 2 f.first.toNat ++ " in position ".toList ++
        Text.ofNat f.position
    else
      "bytes in position ".toList ++ Text.ofNat f.position ++ ['-'] ++
        Text.ofNat (f.position + f.width - 1)) ++
    ": ".toList ++ f.cause.words

end Utf8
end Courier
