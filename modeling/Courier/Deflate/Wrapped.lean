import Courier.Deflate.Blocks

/-!
# Compressed bytes in their wrappings

Compressed bytes come alone or in a wrapping: a header in front of the blocks,
and behind them a sum over all bytes that they stand for. Bytes that end before
the wrapping does stand for what could be read of them, and whatever follows
the wrapping counts for nothing.

Key definitions: `Deflate.crc32`, `Deflate.adler32`, `Deflate.Wrapping`, `Deflate.decode`.
-/

namespace Courier.Deflate

/-- One bit shifted out of a cyclic sum. -/
def crcShift (sum : Nat) : Nat := if sum % 2 = 1 then (sum / 2) ^^^ 0xEDB88320 else sum / 2

/-- A cyclic sum with one byte more. -/
def crcStep (sum : Nat) (b : UInt8) : Nat := Nat.repeat crcShift 8 (sum ^^^ b.toNat)

/-- The cyclic sum of bytes in 32 bits. -/
def crc32 (bs : Bytes) : Nat := bs.foldl crcStep 0xFFFFFFFF ^^^ 0xFFFFFFFF

/-- The largest prime below 2 ^ 16. -/
def adlerPrime : Nat := 65521

/-- The sum of bytes, and the sum of these sums, in 16 bits each. -/
def adler32 (bs : Bytes) : Nat :=
  let (low, high) := bs.foldl (fun (low, high) b =>
    let low := (low + b.toNat) % adlerPrime
    (low, (high + low) % adlerPrime)) (1, 0)
  high * 0x10000 + low

/-- What compressed bytes are wrapped in. -/
inductive Wrapping where
  | none
  | zlib
  | gzip
  deriving DecidableEq, Repr

namespace Wrapping

/-- The number of the only method of compression. -/
def method : Nat := 8

/-- Reads the two bytes in front of the blocks. -/
def zlibHeader : Reader Unit := do
  let first ← number 8
  let second ← number 8
  if (first * 0x100 + second) % 31 ≠ 0 then refuse .header
  if first % 16 ≠ method then refuse .method
  if 7 < first / 16 then refuse .window
  if second.testBit 5 then
    let _ ← number 32
    refuse .dictionary

/-- Reads the sum behind the blocks, the high byte first. -/
def zlibTrailer : Reader Unit := do
  align
  let sum := (← numbers 8 4).foldl (0x100 * · + ·) 0
  if sum ≠ adler32 (← get).written.toList then refuse .dataCheck

/-- Passes over so many bytes. -/
def pass (n : Nat) : Reader Unit := do let _ ← numbers 8 n

/-- Passes over a name, which a zero ends. -/
def passName : Reader Unit := fun t =>
  match t.bytes.dropWhile (· != 0) with
  | [] => (.error .short, { t with bytes := [] })
  | _ :: rest => (.ok (), { t with bytes := rest })

/-- The mark at the front of the wrapping. -/
def gzipMark : Nat := 0x8B1F

/-- Reads the header in front of the blocks: the method, flags, a time and the system, and
what the flags announce. -/
def gzipHeader : Reader Unit := do
  let start := (← get).bytes
  if (← number 16) ≠ gzipMark then refuse .header
  let told ← number 8
  let flags ← number 8
  if told ≠ method then refuse .method
  if 0x20 ≤ flags then refuse .flags
  pass 6
  if flags.testBit 2 then pass (← number 16)
  if flags.testBit 3 then passName
  if flags.testBit 4 then passName
  if flags.testBit 1 then
    let header := start.take (start.length - (← get).bytes.length)
    if (← number 16) ≠ crc32 header % 0x10000 then refuse .headerCheck

/-- Reads the sum and the length behind the blocks. -/
def gzipTrailer : Reader Unit := do
  align
  let written := (← get).written.toList
  if (← number 32) ≠ crc32 written then refuse .dataCheck
  if (← number 32) ≠ written.length % 0x100000000 then refuse .lengthCheck

/-- Reads what is in front of the blocks. -/
def header : Wrapping → Reader Unit
  | .none => return ()
  | .zlib => zlibHeader
  | .gzip => gzipHeader

/-- Reads what is behind the blocks. -/
def trailer : Wrapping → Reader Unit
  | .none => return ()
  | .zlib => zlibTrailer
  | .gzip => gzipTrailer

end Wrapping

/-- Reads blocks in a wrapping. -/
def unwrap (w : Wrapping) : Reader Unit := do
  w.header
  blocks (← get).left
  w.trailer

/-- The bytes that compressed ones stand for, as far as they go. -/
def decode (w : Wrapping) (bs : Bytes) : Except Flaw Bytes :=
  match unwrap w (Tape.ofBytes bs) with
  | (.error (.flaw f), _) => .error f
  | (_, t) => .ok t.written.toList

end Courier.Deflate
