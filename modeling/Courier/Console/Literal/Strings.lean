import Courier.Console.Literal.Token

/-!
# What strings hold

A string is of text or of bytes. A backslash in it escapes the character after
it, unless the string is raw; an escape by a number has a certain number of
digits. Strings that follow each other make one, and are of the same sort.

Key definitions: `Strings.fault?`.
-/

namespace Courier.Literal.Strings

/-- The letters before the quotes of a string. -/
def marks (t : Token) : Text := (t.text.takeWhile fun c => c ≠ '"' ∧ c ≠ '\'').map Char.toLower

/-- Is the string of bytes? -/
def isOfBytes (t : Token) : Bool := (marks t).contains 'b'

/-- Does the string hold expressions of its own? -/
def isFormatted (t : Token) : Bool := (marks t).contains 'f'

/-- What stands between the quotes of a string. -/
def inside (t : Token) : Text :=
  let quoted := t.text.drop (marks t).length
  let quotes := if 6 ≤ quoted.length && quoted[1]? = quoted[0]? && quoted[2]? = quoted[0]? then 3
    else 1
  (quoted.drop quotes).take (quoted.length - 2 * quotes)

/-- The number that hexadecimal digits make. -/
def hexOf (digits : Text) : Nat :=
  digits.foldl (fun n c => 16 * n + (if c.isDigit then c.toNat - 48 else c.toLower.toNat - 87)) 0

/-- Is the character a hexadecimal digit? -/
def isHex (c : Char) : Bool := c.isDigit || ('a' ≤ c.toLower ∧ c.toLower ≤ 'f')

/-- The number of digits that an escape has after its letter, and its form in words. -/
def digitsOf? (letter : Char) : Option (Nat × String) :=
  if letter = 'x' then some (2, "\\xXX")
  else if letter = 'u' then some (4, "\\uXXXX")
  else if letter = 'U' then some (8, "\\UXXXXXXXX")
  else none

/-- The places that a character counts for: one outside of ASCII is spelled as an escape. -/
def places (c : Char) : Nat := if c.toNat < 0x80 then 1 else 10

/-- The first wrong escape in a text that stands at a place. -/
def escapeFault? : (fuel place : Nat) → Text → Option Fault
  | fuel + 1, place, '\\' :: c :: rest =>
    match digitsOf? c with
    | some (n, form) =>
      let digits := (rest.take n).takeWhile isHex
      if digits.length < n then
        some (.badEscape place (place + 1 + digits.length) s!"truncated {form} escape")
      else if 0x10FFFF < hexOf digits then
        some (.badEscape place (place + 1 + n) "illegal Unicode character")
      else escapeFault? fuel (place + 2 + n) (rest.drop n)
    | none =>
      if c = 'N' then
        match rest with
        | '\x7b' :: named =>
          let name := named.takeWhile (· ≠ '\x7d')
          if name = [] || name.length = named.length then
            some (.badEscape place (place + 2 + name.length) "malformed \\N character escape")
          else escapeFault? fuel (place + 4 + name.length) (named.drop (name.length + 1))
        | _ => some (.badEscape place (place + 1) "malformed \\N character escape")
      else if c.toNat < 0x80 then escapeFault? fuel (place + 2) rest
      else escapeFault? fuel (place + 16) rest
  | fuel + 1, place, c :: rest => escapeFault? fuel (place + places c) rest
  | _, _, _ => none

/-- The first wrong escape in bytes that stand at a place. -/
def byteEscapeFault? : (place : Nat) → Text → Option Fault
  | place, '\\' :: c :: rest =>
    if c = 'x' && ((rest.take 2).takeWhile isHex).length < 2 then some (.badByteEscape place)
    else byteEscapeFault? (place + 2) rest
  | place, _ :: rest => byteEscapeFault? (place + 1) rest
  | _, [] => none

/-- What is wrong within a string. -/
def insideFault? (t : Token) : Option Fault :=
  if isOfBytes t && (inside t).any (0x80 ≤ ·.toNat) then some .wideBytes
  else if (marks t).contains 'r' || isFormatted t then none
  else if isOfBytes t then byteEscapeFault? 0 (inside t)
  else escapeFault? ((inside t).length + 1) 0 (inside t)

/-- What is wrong with strings that follow each other. -/
def fault? : List Token → Option Fault
  | [] => none
  | first :: rest => (insideFault? first).or (others (isOfBytes first) rest)
where
  /-- What is wrong with the others, which are of the same sort as the first. -/
  others (ofBytes : Bool) : List Token → Option Fault
    | [] => none
    | t :: rest =>
      (insideFault? t).or (if isOfBytes t ≠ ofBytes then some .mixedStrings else others ofBytes rest)

end Courier.Literal.Strings
