import Courier.Http.Label.Direction
import Courier.Http.Label.Joining
import Courier.Http.Label.Letters
import Courier.Http.Punycode
import Courier.Text.Composed
import Courier.Text.Quoted

/-!
# Labels of host names

A label is what stands between two dots of a host name: a row of code points
that is composed, starts with no mark, has hyphens inside only, but not at its
third and fourth place, and holds letters, marks and digits. A few characters
are bound to their neighbours. When a letter of the label is written to the
left, the whole label is read in one direction.

In a request a label with other characters than ASCII ones stands in its coded
form, which starts with `xn--`.

Key definitions: `Label.Fault`, `Label.check`, `Label.encode`, `Label.decode`.
-/

namespace Courier

/-- The code points of a label. -/
abbrev Label := List Nat

namespace Label

/-- Why a label cannot be read in one direction. -/
inductive DirectionFault where
  | unknown (label : Label) (place : Nat)
  | first (label : Label)
  | strayLeftward (place : Nat)
  | mixedDigits
  | strayRightward (place : Nat)
  | last
  deriving DecidableEq, Repr

/-- Why a row of code points is no label. -/
inductive Fault where
  /-- Nothing follows the mark of a coded label. -/
  | noContent
  /-- A coded label ends in a hyphen. -/
  | hyphenAtEnd
  /-- A coded label codes nothing. -/
  | badCode
  | empty
  | notComposed
  | innerHyphens
  | outerHyphen
  | markFirst
  /-- A character that no label holds. -/
  | letter (n place : Nat) (label : Label)
  /-- A joiner or non-joiner between letters that do not join. -/
  | joiner (n place : Nat) (label : Label)
  /-- A character whose neighbours do not call for it. -/
  | context (n place : Nat) (label : Label)
  | direction (fault : DirectionFault)
  deriving DecidableEq, Repr

/-- A code point by its number, in at least four digits. -/
def pointText (n : Nat) : Text :=
  let digits := (Nat.toDigits 16 n).map Char.toUpper
  "U+".toList ++ List.replicate (4 - digits.length) '0' ++ digits

/-- The fault in words. -/
def DirectionFault.message : DirectionFault → Text
  | .unknown label place =>
    "Unknown directionality in label ".toList ++ Text.quotedPoints label ++
      " at position ".toList ++ Text.ofNat place
  | .first label =>
    "First codepoint in label ".toList ++ Text.quotedPoints label ++
      " must be directionality L, R or AL".toList
  | .strayLeftward place =>
    "Invalid direction for codepoint at position ".toList ++ Text.ofNat place ++
      " in a right-to-left label".toList
  | .mixedDigits => "Can not mix numeral types in a right-to-left label".toList
  | .strayRightward place =>
    "Invalid direction for codepoint at position ".toList ++ Text.ofNat place ++
      " in a left-to-right label".toList
  | .last => "Label ends with illegal codepoint directionality".toList

/-- The fault in words. -/
def Fault.message : Fault → Text
  | .noContent => "Malformed A-label, no Punycode eligible content found".toList
  | .hyphenAtEnd => "A-label must not end with a hyphen".toList
  | .badCode => "Invalid A-label".toList
  | .empty => "Empty Label".toList
  | .notComposed => "Label must be in Normalization Form C".toList
  | .innerHyphens => "Label has disallowed hyphens in 3rd and 4th position".toList
  | .outerHyphen => "Label must not start or end with a hyphen".toList
  | .markFirst => "Label begins with an illegal combining character".toList
  | .letter n place label =>
    "Codepoint ".toList ++ pointText n ++ " at position ".toList ++ Text.ofNat place ++
      " of ".toList ++ Text.quotedPoints label ++ " not allowed".toList
  | .joiner n place label =>
    "Unknown codepoint adjacent to joiner ".toList ++ pointText n ++ " at position ".toList ++
      Text.ofNat place ++ " in ".toList ++ Text.quotedPoints label
  | .context n place label =>
    "Codepoint ".toList ++ pointText n ++ " not allowed at position ".toList ++
      Text.ofNat place ++ " in ".toList ++ Text.quotedPoints label
  | .direction fault => fault.message

/-! ### Characters that are bound to their neighbours -/

/-- The characters without a name of their own among those of a label: the ones
whose direction is unknown, and the Tangut ideographs. -/
def isUnnamed (n : Nat) : Bool :=
  direction n == .unknown || (0x17000 ≤ n && n ≤ 0x187F7) || (0x18D00 ≤ n && n ≤ 0x18D08)

/-- Does the nearest character that is no mark join as one of the given ways? -/
def joinsAs (ways : List Joining) (side : Label) : Bool :=
  match side.dropWhile (joining? · == some .through) with
  | [] => false
  | n :: _ => ((joining? n).map ways.contains).getD false

/-- May an invisible joiner or non-joiner stand between the characters before it, last
one first, and those after it? -/
def joinerFits (n : Nat) (before after : Label) : Bool :=
  let silenced := (before.head?.map isSilencer).getD false
  let known := (before.head?.map (!isUnnamed ·)).getD true
  silenced ||
    (known && n == 0x200C && joinsAs [.next, .both] before && joinsAs [.previous, .both] after)

/-- Is the character one of the two invisible joiners? -/
def isJoiner (n : Nat) : Bool := n == 0x200C || n == 0x200D

/-- Is the character bound to its neighbours? -/
def isBound (n : Nat) : Bool :=
  [0xB7, 0x375, 0x5F3, 0x5F4, 0x30FB].contains n || (0x660 ≤ n && n ≤ 0x669) ||
    (0x6F0 ≤ n && n ≤ 0x6F9)

/-- Do the neighbours of a bound character, those before it last one first, call for it? -/
def boundFits (n : Nat) (before after : Label) : Bool :=
  let all := before ++ after
  if n = 0xB7 then before.head? == some 0x6C && after.head? == some 0x6C
  else if n = 0x375 then (after.head?.map (Text.inRanges greek)).getD false
  else if n = 0x5F3 || n = 0x5F4 then (before.head?.map (Text.inRanges hebrew)).getD false
  else if n = 0x30FB then all.any fun m => m != 0x30FB && Text.inRanges japanese m
  else if n ≤ 0x669 then all.all fun m => !(0x6F0 ≤ m && m ≤ 0x6F9)
  else all.all fun m => !(0x660 ≤ m && m ≤ 0x669)

/-- The first fault of a character in the rest of a label; `before` holds the characters
before the rest, last one first. -/
def letterFault? (label : Label) : (before : Label) → Label → Option Fault
  | _, [] => none
  | before, n :: after =>
    let place := before.length + 1
    let fault :=
      if isLetter n then none
      else if isJoiner n then
        if joinerFits n before after then none else some (.joiner n place label)
      else if isBound n then
        if boundFits n before after then none else some (.context n place label)
      else some (.letter n place label)
    match fault with
    | some fault => some fault
    | none => letterFault? label (n :: before) after

/-! ### The direction of a label -/

/-- Does the direction turn a label to the left? -/
def Direction.turns (d : Direction) : Bool := [.leftward, .arabic, .arabicDigit].contains d

/-- May the direction be in a label that is read to the left? -/
def Direction.fitsLeftward (d : Direction) : Bool := d != .rightward && d != .unknown

/-- May the direction be in a label that is read to the right? -/
def Direction.fitsRightward (d : Direction) : Bool :=
  [.rightward, .digit, .separator, .neutral, .boundary, .mark].contains d

/-- May a label that is read to the left end in the direction? -/
def Direction.endsLeftward (d : Direction) : Bool :=
  [.leftward, .arabic, .digit, .arabicDigit].contains d

/-- May a label that is read to the right end in the direction? -/
def Direction.endsRightward (d : Direction) : Bool := d == .rightward || d == .digit

/-- The fault of the rest of a label that is read to the left, from a place on, after a
digit of the given direction. -/
def leftwardFault? (place : Nat) (digits : Option Direction) :
    List Direction → Option DirectionFault
  | [] => none
  | d :: rest =>
    if !d.fitsLeftward then some (.strayLeftward place)
    else if d = .digit || d = .arabicDigit then
      if digits.all (· == d) then leftwardFault? (place + 1) (some d) rest else some .mixedDigits
    else leftwardFault? (place + 1) digits rest

/-- The place of the first direction that does not fit into a label read to the right. -/
def rightwardFault? (directions : List Direction) : Option DirectionFault :=
  let fitting := directions.takeWhile Direction.fitsRightward
  if fitting.length = directions.length then none else some (.strayRightward (fitting.length + 1))

/-- The fault of the directions in a label. -/
def directionFault? (label : Label) : Option DirectionFault :=
  let directions := label.map direction
  let known := directions.takeWhile (· != .unknown)
  let ending := ((directions.reverse.dropWhile (· == .mark)).head?).getD .mark
  if known.length < directions.length then some (.unknown label (known.length + 1))
  else if !directions.any Direction.turns then none
  else
    match directions.head? with
    | some .leftward | some .arabic =>
      (leftwardFault? 1 none directions).or
        (if ending.endsLeftward then none else some .last)
    | some .rightward =>
      (rightwardFault? directions).or (if ending.endsRightward then none else some .last)
    | _ => some (.first label)

/-! ### Labels -/

/-- A label without faults. -/
def check (label : Label) : Except Fault Unit :=
  let hyphen := '-'.toNat
  if label = [] then .error .empty
  else if !Composed.isComposed label then .error .notComposed
  else if (label.drop 2).take 2 == [hyphen, hyphen] then .error .innerHyphens
  else if label.head? == some hyphen || label.getLast? == some hyphen then .error .outerHyphen
  else if (label.head?.map isMark).getD false then .error .markFirst
  else
    match letterFault? label [] label with
    | some fault => .error fault
    | none =>
      match directionFault? label with
      | some fault => .error (.direction fault)
      | none => .ok ()

/-- The code points of a text. -/
def ofText (t : Text) : Label := t.map Char.toNat

/-- What a coded label starts with. -/
def lead : Text := "xn--".toList

/-- The label that stands in ASCII characters. -/
def decode (t : Text) : Except Fault Label :=
  match Text.dropLead? lead t with
  | none => (check (ofText t)).map fun _ => ofText t
  | some [] => .error .noContent
  | some code =>
    if code.getLast? = some '-' then .error .hyphenAtEnd
    else
      match Punycode.decode? code with
      | none => .error .badCode
      | some label => (check label).map fun _ => label

/-- The longest form of a label in a request. -/
def maxLength : Nat := 63

/-- A label as it stands in a request, if it is one. -/
def encode? (t : Text) : Option Text :=
  let form :=
    if t.all (·.toNat < 0x80) then (decode t).toOption.map fun _ => t
    else (check (ofText t)).toOption.map fun _ => lead ++ Punycode.encode t
  form.filter (·.length ≤ maxLength)

end Label
end Courier
