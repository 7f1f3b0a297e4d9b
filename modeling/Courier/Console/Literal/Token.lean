import Courier.Console.Literal.Fault
import Courier.Text.Word

/-!
# The tokens of a literal

A literal is broken into names, numbers, strings and signs. Brackets nest, and
the end of a line counts outside of brackets only. The scan goes on until it
meets what is no token, or the end of the text.

Key definitions: `Token`, `Literal.Scan`, `Literal.scan`.
-/

namespace Courier.Literal

/-- The kinds of tokens. -/
inductive Token.Kind where
  | name
  | keyword
  | number
  | string
  | sign
  | lineEnd
  | indent
  | finish
  deriving DecidableEq, Repr

/-- A token, the number of brackets that are open after it, and its line. -/
structure Token where
  kind : Token.Kind
  text : Text
  depth : Nat
  line : Nat
  deriving DecidableEq, Repr

/-- The words that are no names. -/
def keywords : List Text :=
  Text.words ("False None True and as assert async await break class continue def del elif else " ++
    "except finally for from global if import in is lambda nonlocal not or pass raise return " ++
    "try while with yield").toList

/-- The signs of more than one character, the longer ones first. -/
def longSigns : List Text :=
  Text.words ("... **= //= >>= <<= != %= &= ** *= += -= -> // /= := << <= <> == >= >> @= ^= " ++
    "|=").toList

/-- The other characters that are signs; brackets are told apart before. -/
def signs : Text := "!$%&*+,-./:;<=>?@^_`|~".toList

/-! ### Numbers -/

/-- The text after a run of digits, which single underscores may group; else the text
after an underscore that groups nothing. -/
def dropDigits (isDigit : Char → Bool) : Text → Except Text Text
  | [] => .ok []
  | c :: rest =>
    if isDigit c then dropDigits isDigit rest
    else if c = '_' then
      match rest with
      | [] => .error []
      | d :: rest => if isDigit d then dropDigits isDigit rest else .error (d :: rest)
    else .ok (c :: rest)

/-- Does the text start with one of the others? -/
def startsWithAny (starts : List String) (t : Text) : Bool :=
  starts.any fun s => s.toList.isPrefixOf t

/-- The text after a number, which no name may follow at once; but the words that can
follow a number may. -/
def endNumber (kind : NumberKind) (rest : Text) : Except Fault Text :=
  if startsWithAny ["and", "else", "for", "if", "in", "is", "or", "not"] rest then .ok rest
  else
    match rest with
    | c :: _ => if c.isAlphanum || c = '_' then .error (.badNumber kind) else .ok rest
    | [] => .ok rest

/-- The text after the digits of a number in another base than ten. -/
def dropBased (kind : NumberKind) (isDigit : Char → Bool) (t : Text) : Except Fault Text :=
  let refuse (rest : Text) : Fault :=
    match rest with
    | d :: _ => if d.isDigit && kind ≠ .hexadecimal then .badDigit d kind else .badNumber kind
    | [] => .badNumber kind
  let t := if t.head? = some '_' then t.drop 1 else t
  if (t.head?.map isDigit).getD false then
    match dropDigits isDigit t with
    | .error rest => .error (refuse rest)
    | .ok rest =>
      if (rest.head?.map Char.isDigit).getD false && kind ≠ .hexadecimal then .error (refuse rest)
      else endNumber kind rest
  else .error (refuse t)

/-- The text after a run of decimal digits. -/
def dropDecimal (t : Text) : Except Fault Text :=
  (dropDigits Char.isDigit t).mapError fun _ => .badNumber .decimal

/-- The text after what may follow the digits of a number before and after its point.
`zeros` tells that they make a number other than zero and start with one. -/
def dropScale (zeros : Bool) (t : Text) : Except Fault Text :=
  match t with
  | 'e' :: rest | 'E' :: rest =>
    match rest with
    | '+' :: digits | '-' :: digits =>
      if (digits.head?.map Char.isDigit).getD false then dropDecimal digits >>= unit
      else .error (.badNumber .decimal)
    | d :: digits => if d.isDigit then dropDecimal (d :: digits) >>= unit else endNumber .decimal t
    | [] => endNumber .decimal t
  | t =>
    match t with
    | 'j' :: _ | 'J' :: _ => unit t
    | _ => if zeros then .error .leadingZeros else unit t
where
  /-- The text after the unit that makes a number imaginary, if there is one. -/
  unit : Text → Except Fault Text
    | 'j' :: rest | 'J' :: rest => endNumber .imaginary rest
    | rest => endNumber .decimal rest

/-- The text after a number, which starts with a digit, or with a point before one. -/
def dropNumber (t : Text) : Except Fault Text :=
  match t with
  | '0' :: 'x' :: rest | '0' :: 'X' :: rest =>
    dropBased .hexadecimal (fun c => c.isDigit || ('a' ≤ c.toLower ∧ c.toLower ≤ 'f')) rest
  | '0' :: 'o' :: rest | '0' :: 'O' :: rest =>
    dropBased .octal (fun c => '0' ≤ c ∧ c ≤ '7') rest
  | '0' :: 'b' :: rest | '0' :: 'B' :: rest =>
    dropBased .binary (fun c => c = '0' ∨ c = '1') rest
  | _ => do
    let rest ← dropDecimal t
    let whole := t.take (t.length - rest.length)
    match rest with
    | '.' :: rest =>
      if (rest.head?.map Char.isDigit).getD false then dropDecimal rest >>= dropScale false
      else dropScale false rest
    | _ => dropScale (whole.head? = some '0' && whole.any fun c => c ≠ '0' ∧ c ≠ '_') rest

/-! ### Strings -/

/-- The text after a string that ends at a quote on its own line, and the number of lines
that it goes on for; else only that number. -/
def dropString (quote : Char) : Text → Nat → Except Nat (Text × Nat)
  | [], lines => .error lines
  | '\\' :: c :: rest, lines => dropString quote rest (if c = '\n' then lines + 1 else lines)
  | c :: rest, lines =>
    if c = '\n' then .error lines
    else if c = quote then .ok (rest, lines)
    else dropString quote rest lines

/-- The text after a string that ends at three quotes. -/
def dropLongString (quote : Char) : Text → Nat → Except Nat (Text × Nat)
  | [], lines => .error lines
  | '\\' :: c :: rest, lines => dropLongString quote rest (if c = '\n' then lines + 1 else lines)
  | c :: rest, lines =>
    if [quote, quote, quote].isPrefixOf (c :: rest) then .ok (rest.drop 2, lines)
    else dropLongString quote rest (if c = '\n' then lines + 1 else lines)

/-- The text after a string, whose first quote stands before the text, and its last line. -/
def dropQuoted (quote : Char) (line : Nat) (t : Text) : Except Fault (Text × Nat) :=
  match t with
  | c :: d :: rest =>
    if c = quote ∧ d = quote then (dropLongString quote rest line).mapError .openLongString
    else (dropString quote t line).mapError .openString
  | _ => (dropString quote t line).mapError .openString

/-- The letters that may stand before a string, in any order and case. -/
def stringMarks : List Text := Text.words "b r u f br rb fr rf".toList

/-- The text after the letters before a string, where it starts with them and a quote. -/
def dropMarks? (t : Text) : Option Text :=
  [0, 1, 2].findSome? fun n =>
    let marks := (t.take n).map Char.toLower
    match t.drop n with
    | c :: rest =>
      if (c = '"' ∨ c = '\'') && (n == 0 || stringMarks.any (· == marks)) then some (c :: rest)
      else none
    | [] => none

/-! ### The scan -/

/-- What has been found so far, the latest first, and what is open. -/
structure Scan where
  tokens : List Token
  /-- The open brackets and their lines, the innermost first. -/
  opened : List (Char × Nat)
  line : Nat
  deriving Repr

/-- Why a scan stopped before the end of the text. -/
structure Stop where
  fault : Fault
  /-- It counts only for a reader that comes to it. -/
  late : Bool
  /-- The innermost bracket that was open then, and its line. -/
  opened : Option (Char × Nat)

namespace Scan

/-- Adds a token. -/
def add (s : Scan) (kind : Token.Kind) (text : Text) : Scan :=
  { s with tokens := ⟨kind, text, s.opened.length, s.line⟩ :: s.tokens }

/-- Opens a bracket. -/
def openBracket (s : Scan) (c : Char) : Except Fault Scan :=
  if 200 ≤ s.opened.length then .error .tooDeep
  else .ok ({ s with opened := (c, s.line) :: s.opened }.add .sign [c])

/-- Closes a bracket. -/
def closeBracket (s : Scan) (c : Char) : Except Fault Scan :=
  match s.opened with
  | [] => .error (.unmatched c)
  | (o, line) :: rest =>
    if o = '(' ∧ c = ')' ∨ o = '\x7b' ∧ c = '\x7d' then
      .ok ({ s with opened := rest }.add .sign [c])
    else .error (.mismatched c o (if line = s.line then none else some line))

/-- Has the line on which the scan stands no tokens yet? -/
def atLineStart (s : Scan) : Bool :=
  match s.tokens with
  | [] => true
  | t :: _ => t.kind = .lineEnd

/-- Ends a line before the text of the next one. A line that goes on inside of brackets does
not end, and the next one is indented if white space stands before its first token. -/
def endLine (s : Scan) (next : Text) : Scan :=
  let below : Scan := { s with line := s.line + 1 }
  if s.opened ≠ [] then below
  else
    let ended := if s.atLineStart then below else { s.add .lineEnd [] with line := s.line + 1 }
    let blanks := next.takeWhile fun c => c = ' ' ∨ c = '\t' ∨ c = '\x0c'
    match next.drop blanks.length with
    | [] => ended
    | c :: _ =>
      if blanks.getLastD '\x0c' = '\x0c' ∨ c = '#' ∨ c = '\n' then ended else ended.add .indent []

end Scan

/-- The word at the front of a text, as a token. -/
def wordKind (word : Text) : Except Fault Token.Kind :=
  match word with
  | [] => .error .misplaced
  | c :: rest =>
    match (if Text.startsName c then rest.find? (!Text.inName ·) else some c) with
    | some bad => .error (if Text.isPrintable bad then .strange bad else .hidden bad)
    | none => .ok (if keywords.contains word then .keyword else .name)

/-- May the character stand in a word? Every character outside of ASCII may, at first. -/
def inWord (c : Char) : Bool := c.isAlphanum || c == '_' || 0x80 ≤ c.toNat

/-- One token taken off the front of a text that is not empty, or white space. -/
def step (s : Scan) (c : Char) (rest : Text) : Except Fault (Scan × Text) :=
  let all := c :: rest
  let taken (kind : Token.Kind) (after : Text) : Scan × Text :=
    (s.add kind (all.take (all.length - after.length)), after)
  if c = ' ' ∨ c = '\t' ∨ c = '\x0c' then .ok (s, rest)
  else if c = '#' then .ok (s, rest.dropWhile (· ≠ '\n'))
  else if c = '\n' then .ok (s.endLine rest, rest)
  else
    match dropMarks? all with
    | some (quote :: inner) =>
      (dropQuoted quote s.line inner).map fun (after, line) =>
        ({ s with line }.add .string (all.take (all.length - after.length)), after)
    | _ =>
      if inWord c && !c.isDigit then
        let after := all.dropWhile inWord
        (wordKind (all.takeWhile inWord)).map fun kind => taken kind after
      else if c.isDigit || c = '.' && (rest.head?.map Char.isDigit).getD false then
        (dropNumber all).map fun after => taken .number after
      else
        match longSigns.find? (·.isPrefixOf all) with
        | some sign => .ok (taken .sign (all.drop sign.length))
        | none =>
          if c = '(' ∨ c = '\x7b' then (s.openBracket c).map (·, rest)
          else if c = ')' ∨ c = '\x7d' then (s.closeBracket c).map (·, rest)
          else if signs.contains c then .ok (taken .sign rest)
          else .error (if Text.isPrintable c then .strange c else .hidden c)

/-- The tokens of a text, of which `s` has been found, and why the scan stopped. -/
def scanFrom : (fuel : Nat) → Scan → Text → List Token × Option Stop
  | 0, s, _ => (s.tokens.reverse, none)
  | _, s, [] =>
    match s.opened with
    | (c, line) :: _ => (s.tokens.reverse, some ⟨.unclosed c, true, some (c, line)⟩)
    | [] => (((s.add .lineEnd []).add .finish []).tokens.reverse, none)
  | fuel + 1, s, c :: rest =>
    let stop (fault : Fault) (late : Bool) : List Token × Option Stop :=
      (s.tokens.reverse, some ⟨fault, late, s.opened.head?⟩)
    if c = '\\' then
      match rest with
      | ['\n'] => stop .endOfText true
      | '\n' :: rest => scanFrom fuel { s with line := s.line + 1 } rest
      | _ => stop .afterBackslash true
    else
      match step s c rest with
      | .error fault => stop fault false
      | .ok (s, rest) => scanFrom fuel s rest

/-- The tokens of a text. -/
def scan (t : Text) : List Token × Option Stop := scanFrom (t.length + 1) ⟨[], [], 1⟩ t

end Courier.Literal
