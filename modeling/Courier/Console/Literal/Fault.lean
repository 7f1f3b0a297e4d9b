import Courier.Text.Printable
import Courier.Text.Split

/-!
# Why a literal cannot be read

A text that is to be a literal may break up into no tokens, or its tokens may
not follow each other as they do in an expression; then it cannot be read. An
expression that can be read may still have no value.

Key definitions: `Literal.Fault`, `Literal.Misfit`.
-/

namespace Courier.Literal

/-- The ways to write a number. -/
inductive NumberKind where
  | decimal
  | hexadecimal
  | octal
  | binary
  | imaginary
  deriving DecidableEq, Repr

/-- The way to write a number in words. -/
def NumberKind.words : NumberKind → String
  | .decimal => "decimal"
  | .hexadecimal => "hexadecimal"
  | .octal => "octal"
  | .binary => "binary"
  | .imaginary => "imaginary"

/-- Why a text is no expression. -/
inductive Fault where
  /-- The text holds the null character. -/
  | nullCharacter
  /-- A token stands where it cannot, and no more can be said. -/
  | misplaced
  /-- A line starts with white space. -/
  | indented
  /-- A number is written wrongly, or runs on into a name. -/
  | badNumber (kind : NumberKind)
  /-- A digit is too large for the base of the number. -/
  | badDigit (digit : Char) (kind : NumberKind)
  /-- A decimal number other than zero starts with a zero. -/
  | leadingZeros
  /-- A string does not end; the line on which that is found. -/
  | openString (line : Nat)
  /-- A string in triple quotes does not end. -/
  | openLongString (line : Nat)
  /-- A character stands for nothing. -/
  | strange (c : Char)
  /-- A character that does not show stands for nothing. -/
  | hidden (c : Char)
  /-- A backslash stands before something else than the end of a line. -/
  | afterBackslash
  /-- The text ends after a line that is to go on. -/
  | endOfText
  /-- A bracket is not closed. -/
  | unclosed (bracket : Char)
  /-- A bracket closes nothing. -/
  | unmatched (bracket : Char)
  /-- A bracket closes one of another kind, which may stand on a line before. -/
  | mismatched (closing opening : Char) (line : Option Nat)
  /-- Brackets are nested too deeply. -/
  | tooDeep
  /-- Strings of text and of bytes follow each other. -/
  | mixedStrings
  /-- A string of bytes holds another character than those of ASCII. -/
  | wideBytes
  /-- An escape in a string of text is not complete, or stands for no character; its first
  and last place. -/
  | badEscape (first last : Nat) (words : String)
  /-- An escape in a string of bytes is not complete; its place. -/
  | badByteEscape (place : Nat)
  /-- Two expressions follow each other. -/
  | missingComma
  /-- A condition has no alternative. -/
  | missingElse
  /-- A name that asks for parentheses has none. -/
  | missingParentheses (name : Text)
  /-- A name is set where an expression is due. -/
  | setName
  /-- An expression is set that is none to be set. -/
  | setExpression (what : String)
  /-- An expression is named that is no name. -/
  | namedExpression (what : String)
  /-- What is set or run through is nothing to be set. -/
  | unsettable (what : String)
  /-- An argument is set that has no name. -/
  | setArgument
  /-- A star stands before no expression. -/
  | bareStar
  /-- A starred expression stands alone in parentheses. -/
  | starredGroup
  /-- A doubly starred expression stands alone in parentheses. -/
  | doublyStarredGroup
  /-- A run over values makes starred expressions. -/
  | starredRun
  /-- A run over values makes doubly starred expressions. -/
  | doublyStarredRun
  /-- A run over values makes several expressions at once. -/
  | bareRun
  /-- A run over values stands beside other arguments. -/
  | runBesideArguments
  /-- A key has no value. -/
  | missingValue
  /-- A key has no colon. -/
  | missingColon
  /-- The value of a key is starred. -/
  | starredValue
  /-- A starred argument follows a doubly starred one. -/
  | starAfterDoubleStar
  /-- An argument without a name follows one with a name. -/
  | afterNamed
  /-- An argument without a name follows a doubly starred one. -/
  | afterDoubleStar
  deriving DecidableEq, Repr

/-- The number of a character as messages give it. -/
def point (c : Char) : Text :=
  let digits := Nat.toDigits 16 c.toNat
  "U+".toList ++ List.replicate (4 - digits.length) '0' ++ digits.map Char.toUpper

/-- The fault in words. -/
def Fault.message : Fault → Text
  | .nullCharacter => "source code string cannot contain null bytes".toList
  | .misplaced => "invalid syntax".toList
  | .indented => "unexpected indent".toList
  | .badNumber kind => s!"invalid {kind.words} literal".toList
  | .badDigit digit kind => s!"invalid digit '{digit}' in {kind.words} literal".toList
  | .leadingZeros =>
    ("leading zeros in decimal integer literals are not permitted; " ++
      "use an 0o prefix for octal integers").toList
  | .openString line => s!"unterminated string literal (detected at line {line})".toList
  | .openLongString line =>
    s!"unterminated triple-quoted string literal (detected at line {line})".toList
  | .strange c => s!"invalid character '{c}' (".toList ++ point c ++ [')']
  | .hidden c => "invalid non-printable character ".toList ++ point c
  | .afterBackslash => "unexpected character after line continuation character".toList
  | .endOfText => "unexpected EOF while parsing".toList
  | .unclosed bracket => s!"'{bracket}' was never closed".toList
  | .unmatched bracket => s!"unmatched '{bracket}'".toList
  | .mismatched closing opening line =>
    s!"closing parenthesis '{closing}' does not match opening parenthesis '{opening}'".toList ++
      (line.map fun n => s!" on line {n}".toList).getD []
  | .tooDeep => "too many nested parentheses".toList
  | .mixedStrings => "cannot mix bytes and nonbytes literals".toList
  | .wideBytes => "bytes can only contain ASCII literal characters".toList
  | .badEscape first last words =>
    (s!"(unicode error) 'unicodeescape' codec can't decode bytes in position {first}-{last}: " ++
      words).toList
  | .badByteEscape place => s!"(value error) invalid \\x escape at position {place}".toList
  | .missingComma => "invalid syntax. Perhaps you forgot a comma?".toList
  | .missingElse => "expected 'else' after 'if' expression".toList
  | .missingParentheses name =>
    "Missing parentheses in call to '".toList ++ name ++ "'. Did you mean ".toList ++ name ++
      "(...)?".toList
  | .setName => "invalid syntax. Maybe you meant '==' or ':=' instead of '='?".toList
  | .setExpression what =>
    s!"cannot assign to {what} here. Maybe you meant '==' instead of '='?".toList
  | .namedExpression what => s!"cannot use assignment expressions with {what}".toList
  | .unsettable what => s!"cannot assign to {what}".toList
  | .setArgument =>
    "expression cannot contain assignment, perhaps you meant \"==\"?".toList
  | .bareStar => "Invalid star expression".toList
  | .starredGroup => "cannot use starred expression here".toList
  | .doublyStarredGroup => "cannot use double starred expression here".toList
  | .starredRun => "iterable unpacking cannot be used in comprehension".toList
  | .doublyStarredRun => "dict unpacking cannot be used in dict comprehension".toList
  | .bareRun => "did you forget parentheses around the comprehension target?".toList
  | .runBesideArguments => "Generator expression must be parenthesized".toList
  | .missingValue => "expression expected after dictionary key and ':'".toList
  | .missingColon => "':' expected after dictionary key".toList
  | .starredValue => "cannot use a starred expression in a dictionary value".toList
  | .starAfterDoubleStar =>
    "iterable argument unpacking follows keyword argument unpacking".toList
  | .afterNamed => "positional argument follows keyword argument".toList
  | .afterDoubleStar => "positional argument follows keyword argument unpacking".toList

/-- Why an expression has no value. -/
inductive Misfit where
  /-- It is more than a literal. -/
  | noLiteral
  /-- It spreads the entries of another one. -/
  | spread
  /-- What cannot be told apart by its contents is to be a member or a key. -/
  | unhashable (kind : String)
  deriving DecidableEq, Repr

/-- The misfit in words. -/
def Misfit.message : Misfit → Text
  | .noLiteral => "malformed node or string".toList
  | .spread => "malformed node or string: None".toList
  | .unhashable kind => s!"unhashable type: '{kind}'".toList

end Courier.Literal
