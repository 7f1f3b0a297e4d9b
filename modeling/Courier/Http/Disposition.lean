import Courier.Text.Caseless
import Courier.Bytes.Percent

/-!
# The file name in a Content-Disposition value

A value may name a file in two forms: the extended one, whose marker is
followed by the percent-encoded name up to a semicolon or a line end, and the
plain one, whose name may stand in double quotes and ends at the next double
quote or semicolon. The first extended form in the value wins over every plain
one. In either form the name is trimmed and percent-decoded.

Key definitions: `Disposition.captured`, `Disposition.fileName?`.
-/

namespace Courier.Disposition

/-- The marker of the extended form, in small letters. -/
def extendedMarker : Text := "filename*=utf-8''".toList

/-- The word that opens the plain form, in small letters. -/
def plainMarker : Text := "filename".toList

/-- May the character stand in a name of the extended form? -/
def inExtended (c : Char) : Bool := !(c == ';' || c == '\n' || c == '\r')

/-- May the character stand in a name of the plain form? -/
def inPlain (c : Char) : Bool := !(c == '"' || c == ';')

/-- A run of characters, unless it is empty. -/
def nonempty? : Text → Option Text
  | [] => none
  | c :: cs => some (c :: cs)

/-- The name of an extended form that starts the text. -/
def extendedHere? (t : Text) : Option Text :=
  (Text.dropCaseless? extendedMarker t).bind fun rest => nonempty? (rest.takeWhile inExtended)

/-- A text without the double quote at its front. -/
def dropQuote : Text → Text
  | '"' :: cs => cs
  | cs => cs

/-- The name that follows the equals sign of a plain form. White space before
it is skipped, and so is one double quote; where nothing is left to be a name,
the last character of the white space is. -/
def plainValue? (t : Text) : Option Text :=
  (nonempty? ((dropQuote (t.dropWhile Text.isBlank)).takeWhile inPlain)).or
    ((t.takeWhile Text.isBlank).getLast?.map ([·]))

/-- The name of a plain form that starts the text. -/
def plainHere? (t : Text) : Option Text :=
  (Text.dropCaseless? plainMarker t).bind fun rest =>
    match rest.dropWhile Text.isBlank with
    | '=' :: value => plainValue? value
    | _ => none

/-- The raw name in a value: of the first extended form, else of the first plain one. -/
def captured (value : Text) : Option Text :=
  (Text.searchFor extendedHere? value).or (Text.searchFor plainHere? value)

/-- Why a name cannot be read. -/
inductive Fault where
  /-- A percent sign in the raw name is not followed by two hexadecimal digits. -/
  | strayPercent (raw : Text)
  /-- The bytes of an ASCII run of the name are not UTF-8. -/
  | notUtf8 (fault : Utf8.Fault)
  deriving DecidableEq, Repr

/-- The fault in words. -/
def Fault.message : Fault → Text
  | .strayPercent raw => "malformed percent-encoding in filename: ".toList ++ Text.quoted raw
  | .notUtf8 fault => fault.message

/-- The name that a trimmed, nonempty raw name stands for. -/
def decodeName (raw : Text) : Except Fault Text :=
  if Percent.isSound raw then (Percent.decode raw).mapError .notUtf8
  else .error (.strayPercent raw)

/-- The decoded file name that a value carries, or none where it names no file. -/
def fileName? (value : Text) : Except Fault (Option Text) :=
  match (captured value).map Text.trim with
  | none | some [] => .ok none
  | some raw => (decodeName raw).map some

end Courier.Disposition
