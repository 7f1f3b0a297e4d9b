import Courier.Bytes.Utf8
import Courier.Http.Disposition

/-!
# Header fields

A response carries a list of fields, names and values being bytes. Names are
compared without regard to ASCII case, and the values of one name are joined
by a comma. The bytes of all fields are read in one encoding: UTF-8 when every
name and value is UTF-8, else Latin-1. A header table, in contrast, is a list
of texts with each name once, as a caller writes it.

Key definitions: `Headers.get?`, `HeaderTable.get?`.
-/

namespace Courier

/-- One header field as it is received. -/
structure Header where
  name : Bytes
  value : Bytes
  deriving DecidableEq, Repr

/-- The header fields of a message, in order. -/
abbrev Headers := List Header

namespace Latin1

/-- The text whose code points are the bytes. -/
def decode (bs : Bytes) : Text := bs.map fun b => .ofNat b.toNat

end Latin1

namespace Headers

/-- Can the bytes be read as UTF-8? -/
def isUtf8 (bs : Bytes) : Bool := (Utf8.decode bs).isOk

/-- The encoding in which all fields are read. -/
def reader (hs : Headers) : Bytes → Text :=
  if hs.all fun h => isUtf8 h.name && isUtf8 h.value then Utf8.decodeLossy else Latin1.decode

/-- An ASCII capital made small. -/
def smallByte (b : UInt8) : UInt8 := if 0x41 ≤ b ∧ b ≤ 0x5A then b + 0x20 else b

/-- The values of a name, given in small letters, in order. -/
def values (hs : Headers) (name : Text) : List Bytes :=
  (hs.filter fun h => h.name.map smallByte == Utf8.encode name).map Header.value

/-- The value of a name, given in small letters; several values are joined by `", "`. -/
def get? (hs : Headers) (name : Text) : Option Text :=
  match values hs name with
  | [] => none
  | vs => some (", ".toList.intercalate (vs.map (reader hs)))

end Headers

/-- A table of header fields written by hand; a value may be absent. -/
abbrev HeaderTable := List (Text × Option Text)

namespace HeaderTable

/-- The value of a name in small letters: under that very name, or else under
the first name that agrees with it but for case. -/
def get? (table : HeaderTable) (name : Text) : Option Text :=
  ((table.lookup name).join).or
    ((table.find? fun field => field.1.map Char.toLower == name).bind Prod.snd)

end HeaderTable

/-- The field that names the file of a response. -/
def dispositionField : Text := "content-disposition".toList

/-- The file name that a Content-Disposition value carries, when there is one. -/
def fileNameOf (value : Option Text) : Except Disposition.Fault (Option Text) :=
  match value with
  | none => .ok none
  | some v => Disposition.fileName? v

end Courier
