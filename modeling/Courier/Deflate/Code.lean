import Courier.Bytes.Utf8

/-!
# Reading bits and prefix codes

Compressed bytes are read bit by bit, the lowest bit of each byte first. What
they stand for is written down on the way, and stays when the reading stops:
because the bytes are at their end, or because they break a rule.

A prefix code is told by the lengths of its words alone. Words of one length
follow each other in the order of their symbols, after all shorter ones.

Key definitions: `Deflate.Flaw`, `Deflate.Tape`, `Deflate.Reader`, `Deflate.number`,
`Deflate.Code.ofLengths`, `Deflate.Code.symbol?`.
-/

namespace Courier.Deflate

/-- A rule that compressed bytes break. -/
inductive Flaw where
  | header
  | method
  | window
  | dictionary
  | flags
  | headerCheck
  | blockType
  | storedLengths
  | tooManySymbols
  | codeLengths
  | repeatedLength
  | noBlockEnd
  | literalLengths
  | distanceLengths
  | literalCode
  | distanceCode
  | tooFarBack
  | dataCheck
  | lengthCheck
  deriving DecidableEq, Repr

namespace Flaw

/-- The broken rule in words; a dictionary that would be needed has none. -/
def words? : Flaw → Option String
  | .header => some "incorrect header check"
  | .method => some "unknown compression method"
  | .window => some "invalid window size"
  | .dictionary => none
  | .flags => some "unknown header flags set"
  | .headerCheck => some "header crc mismatch"
  | .blockType => some "invalid block type"
  | .storedLengths => some "invalid stored block lengths"
  | .tooManySymbols => some "too many length or distance symbols"
  | .codeLengths => some "invalid code lengths set"
  | .repeatedLength => some "invalid bit length repeat"
  | .noBlockEnd => some "invalid code -- missing end-of-block"
  | .literalLengths => some "invalid literal/lengths set"
  | .distanceLengths => some "invalid distances set"
  | .literalCode => some "invalid literal/length code"
  | .distanceCode => some "invalid distance code"
  | .tooFarBack => some "invalid distance too far back"
  | .dataCheck => some "incorrect data check"
  | .lengthCheck => some "incorrect length check"

/-- What is told of bytes that cannot be decompressed. -/
def message (f : Flaw) : Text :=
  match f.words? with
  | some words => "Error -3 while decompressing data: ".toList ++ words.toList
  | none => "Error 2 while decompressing data".toList

end Flaw

/-- Why a reading stops. -/
inductive Stop where
  /-- The bytes are at their end. -/
  | short
  /-- The bytes break a rule. -/
  | flaw (f : Flaw)
  deriving DecidableEq, Repr

/-- What is left to read, and what has been written. -/
structure Tape where
  /-- The bits that are left of the byte that was begun. -/
  bits : List Bool
  /-- The bytes after it. -/
  bytes : Bytes
  /-- What the bytes so far stand for. -/
  written : Array UInt8
  deriving DecidableEq, Repr

/-- A tape on which nothing is read yet. -/
def Tape.ofBytes (bs : Bytes) : Tape := ⟨[], bs, #[]⟩

/-- How many bits are left. -/
def Tape.left (t : Tape) : Nat := t.bits.length + 8 * t.bytes.length

/-- A reading; the tape outlives its stop. -/
abbrev Reader : Type → Type := ExceptT Stop (StateM Tape)

/-- Refuses what was read. -/
def refuse {α : Type} (f : Flaw) : Reader α := throw (.flaw f)

/-- The bits of a byte, the lowest first. -/
def bitsOf (b : UInt8) : List Bool := (List.range 8).map b.toNat.testBit

/-- The next bit. -/
def bit : Reader Bool := fun t =>
  match t.bits, t.bytes with
  | b :: bits, _ => (.ok b, { t with bits := bits })
  | [], byte :: bytes =>
    (.ok (byte.toNat.testBit 0), { t with bits := (bitsOf byte).tail, bytes := bytes })
  | [], [] => (.error .short, t)

/-- The number in the next `n` bits, the lowest bit first. -/
def number : Nat → Reader Nat
  | 0 => return 0
  | n + 1 => do
    let low ← bit
    return low.toNat + 2 * (← number n)

/-- The next `k` numbers of `n` bits each. -/
def numbers (n : Nat) : (k : Nat) → Reader (List Nat)
  | 0 => return []
  | k + 1 => return (← number n) :: (← numbers n k)

/-- Passes over what is left of the byte that was begun. -/
def align : Reader Unit := modify fun t => { t with bits := [] }

/-- Writes a byte. -/
def write (b : UInt8) : Reader Unit := modify fun t => { t with written := t.written.push b }

/-- A prefix code: for each length from one bit on, the symbols whose words have it. -/
abbrev Code := List (List Nat)

namespace Code

/-- The code in which each symbol has a word of the given length; none has one of length zero. -/
def ofLengths (lengths : List Nat) : Code :=
  (List.range (max 1 (lengths.foldl max 0))).map fun i =>
    (List.range lengths.length).filter fun symbol => lengths.getD symbol 0 = i + 1

/-- The number of words of the full length that could still be added; none if there
are too many words already. -/
def spare? (code : Code) : Option Nat :=
  code.foldl (fun spare? row => spare?.bind fun spare =>
    if row.length ≤ 2 * spare then some (2 * spare - row.length) else none) (some 1)

/-- Is every sequence of bits the start of words? -/
def isComplete (code : Code) : Bool := code.spare? == some 0

/-- Has the code no words at all? -/
def isEmpty (code : Code) : Bool := code.all (·.isEmpty)

/-- May symbols be read with the code? One without words may be told, as long as nothing
is read with it, and one may leave out one word of a single bit. -/
def isUsable (code : Code) : Bool :=
  code.isEmpty || code.isComplete || (code.spare?.isSome && code.length == 1)

/-- The symbol of the next word; the bits read so far make the word that comes `offset` words
after the first one of their length. -/
def symbolFrom? : Code → (offset : Nat) → Reader (Option Nat)
  | [], _ => return none
  | row :: rows, offset => do
    let low ← bit
    let offset := 2 * offset + low.toNat
    match row[offset]? with
    | some symbol => return some symbol
    | none => symbolFrom? rows (offset - row.length)

/-- The symbol of the next word, if the bits make one. -/
def symbol? (code : Code) : Reader (Option Nat) := code.symbolFrom? 0

end Code
end Courier.Deflate
