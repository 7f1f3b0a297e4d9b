import Courier.Deflate.Code

/-!
# Compressed blocks

Compressed bytes come in blocks. A block holds bytes as they are, or symbols in
two prefix codes, which are fixed or told before: a symbol of the first stands
for a byte, for the end of the block, or for a length, after which one of the
second tells how far back the bytes stand that are repeated.

Key definitions: `Deflate.Codes`, `Deflate.codes`, `Deflate.Token`, `Deflate.token`,
`Deflate.block`, `Deflate.blocks`.
-/

namespace Courier.Deflate

/-- The codes of a block: one for bytes and lengths, and one for distances. -/
structure Codes where
  literals : Code
  distances : Code

namespace Codes

/-- The codes that need not be told. -/
def fixed : Codes :=
  ⟨.ofLengths (List.replicate 144 8 ++ List.replicate 112 9 ++ List.replicate 24 7 ++
    List.replicate 8 8), .ofLengths (List.replicate 32 5)⟩

end Codes

/-- The symbol that ends a block. -/
def blockEnd : Nat := 256

/-- The most symbols of the first code that are told. -/
def mostLiterals : Nat := 286

/-- The most symbols of the second code that are told. -/
def mostDistances : Nat := 30

/-- The order in which the lengths of the words for lengths come. -/
def lengthOrder : List Nat := [16, 17, 18, 0, 8, 7, 9, 6, 10, 5, 11, 4, 12, 3, 13, 2, 14, 1, 15]

/-- What a symbol above fifteen repeats, how often at least, and the bits that say how much
more often. -/
def repeated (symbol : Nat) (lengths : List Nat) : Option Nat × Nat × Nat :=
  if symbol = 16 then (lengths.getLast?, 3, 2)
  else if symbol = 17 then (some 0, 3, 3)
  else (some 0, 11, 7)

/-- The lengths of `total` words, of which some are read already. Each round adds one at
least. -/
def wordLengths (code : Code) (total : Nat) : (rounds : Nat) → List Nat → Reader (List Nat)
  | 0, lengths => return lengths
  | rounds + 1, lengths =>
    if total ≤ lengths.length then return lengths
    else do
      let symbol := (← code.symbol?).getD 0
      if symbol < 16 then wordLengths code total rounds (lengths ++ [symbol])
      else
        let (length?, least, bits) := repeated symbol lengths
        let more ← number bits
        match length? with
        | none => refuse .repeatedLength
        | some length =>
          if total < lengths.length + least + more then refuse .repeatedLength
          else wordLengths code total rounds (lengths ++ List.replicate (least + more) length)

/-- The codes of a block that tells them. -/
def codes : Reader Codes := do
  let literals := 257 + (← number 5)
  let distances := 1 + (← number 5)
  let told := 4 + (← number 4)
  if mostLiterals < literals || mostDistances < distances then refuse .tooManySymbols
  let told ← numbers 3 told
  let code := Code.ofLengths ((List.range lengthOrder.length).map fun symbol =>
    told.getD (lengthOrder.idxOf symbol) 0)
  if !(code.isEmpty || code.isComplete) then refuse .codeLengths
  let total := literals + distances
  let lengths ← wordLengths code total total []
  if lengths.getD blockEnd 0 = 0 then refuse .noBlockEnd
  let codes : Codes := ⟨.ofLengths (lengths.take literals), .ofLengths (lengths.drop literals)⟩
  if !codes.literals.isUsable then refuse .literalLengths
  if !codes.distances.isUsable then refuse .distanceLengths
  return codes

/-- The least length of each symbol for lengths, and the bits that say how much longer. -/
def lengthSteps : List (Nat × Nat) :=
  [(3, 0), (4, 0), (5, 0), (6, 0), (7, 0), (8, 0), (9, 0), (10, 0), (11, 1), (13, 1), (15, 1),
    (17, 1), (19, 2), (23, 2), (27, 2), (31, 2), (35, 3), (43, 3), (51, 3), (59, 3), (67, 4),
    (83, 4), (99, 4), (115, 4), (131, 5), (163, 5), (195, 5), (227, 5), (258, 0)]

/-- The least distance of each symbol for distances, and the bits that say how much farther. -/
def distanceSteps : List (Nat × Nat) :=
  [(1, 0), (2, 0), (3, 0), (4, 0), (5, 1), (7, 1), (9, 2), (13, 2), (17, 3), (25, 3), (33, 4),
    (49, 4), (65, 5), (97, 5), (129, 6), (193, 6), (257, 7), (385, 7), (513, 8), (769, 8),
    (1025, 9), (1537, 9), (2049, 10), (3073, 10), (4097, 11), (6145, 11), (8193, 12),
    (12289, 12), (16385, 13), (24577, 13)]

/-- The number that a symbol and the bits after it tell; `flaw` where it tells none. -/
def stepped (steps : List (Nat × Nat)) (flaw : Flaw) (symbol? : Option Nat) : Reader Nat :=
  match symbol?.bind (steps[·]?) with
  | some (least, bits) => return least + (← number bits)
  | none => refuse flaw

/-- What symbols stand for. -/
inductive Token where
  | byte (b : UInt8)
  | blockEnd
  /-- Bytes that stand so far back are repeated. -/
  | repeated (length distance : Nat)
  deriving DecidableEq, Repr

/-- The next token. -/
def token (codes : Codes) : Reader Token := do
  match ← codes.literals.symbol? with
  | none => refuse .literalCode
  | some symbol =>
    if symbol < blockEnd then return .byte (.ofNat symbol)
    else if symbol = blockEnd then return .blockEnd
    else
      let length ← stepped lengthSteps .literalCode (some (symbol - (blockEnd + 1)))
      let distance ← stepped distanceSteps .distanceCode (← codes.distances.symbol?)
      return .repeated length distance

/-- Writes bytes again that stand so far back; they may be among those that it writes. -/
def repeatWritten (distance : Nat) : (length : Nat) → Reader Unit
  | 0 => return ()
  | length + 1 => do
    modify fun t =>
      { t with written := t.written.push (t.written.getD (t.written.size - distance) 0) }
    repeatWritten distance length

/-- Reads tokens up to the end of the block. Each takes a bit at least, so as many rounds
as there are bits do. -/
def tokens (codes : Codes) : (rounds : Nat) → Reader Unit
  | 0 => throw .short
  | rounds + 1 => do
    match ← token codes with
    | .byte b =>
      write b
      tokens codes rounds
    | .blockEnd => return ()
    | .repeated length distance =>
      if (← get).written.size < distance then refuse .tooFarBack
      repeatWritten distance length
      tokens codes rounds

/-- Reads a block of bytes as they are, which stand between whole bytes. -/
def stored : Reader Unit := do
  align
  let size ← number 16
  let complement ← number 16
  if size + complement ≠ 0xFFFF then refuse .storedLengths
  let there := (← get).bytes.take size
  modify fun t => { t with bytes := t.bytes.drop size, written := t.written ++ there }
  if there.length < size then throw .short

/-- Reads a block, and tells whether it is the last one. -/
def block : Reader Bool := do
  let last ← bit
  match ← number 2 with
  | 0 => stored
  | 1 => tokens .fixed (← get).left
  | 2 =>
    let codes ← codes
    tokens codes (← get).left
  | _ => refuse .blockType
  return last

/-- Reads all blocks; each takes a bit at least. -/
def blocks : (rounds : Nat) → Reader Unit
  | 0 => throw .short
  | rounds + 1 => do
    if !(← block) then blocks rounds

end Courier.Deflate
