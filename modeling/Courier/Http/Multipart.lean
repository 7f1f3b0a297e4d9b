import Courier.Form

/-!
# The body of a form's request

A payload with files is sent as parts between lines that carry a boundary: the
values first, then the files. A payload of values alone is sent as pairs in
one line, and an empty payload has no body.

Key definitions: `Multipart.encode`, `Urlencoded.encode`, `Payload.encode`.
-/

namespace Courier

namespace Multipart

/-- A line end. -/
def lineEnd : Text := ['\r', '\n']

/-- A character of a name inside double quotes. Control characters are
percent-encoded, but for the escape character. -/
def quotedChar (c : Char) : Text :=
  if c = '"' then "%22".toList
  else if c = '\\' then ['\\', '\\']
  else if c.toNat < 0x20 && c.toNat != 0x1B then Percent.encodeByte (.ofNat c.toNat)
  else [c]

/-- A name with its value in double quotes. -/
def parameter (name : String) (value : Text) : Text :=
  name.toList ++ ['=', '"'] ++ value.flatMap quotedChar ++ ['"']

/-- The line that opens a part. -/
def opening (boundary : Text) : Text := ['-', '-'] ++ boundary ++ lineEnd

/-- The line that names the field of a part, without its end. -/
def fieldLine (field : Text) : Text :=
  "Content-Disposition: form-data; ".toList ++ parameter "name" field

/-- A value as a part. -/
def valuePart (boundary field value : Text) : Bytes :=
  Utf8.encode (opening boundary ++ fieldLine field ++ lineEnd ++ lineEnd ++ value ++ lineEnd)

/-- A file as a part; its name is left out when it is empty. -/
def filePart (boundary : Text) (f : FileField) : Bytes :=
  let name := if f.part.name = [] then [] else "; ".toList ++ parameter "filename" f.part.name
  Utf8.encode (opening boundary ++ fieldLine f.field ++ name ++ lineEnd ++
      "Content-Type: ".toList ++ f.part.mediaType ++ lineEnd ++ lineEnd) ++
    f.part.content ++ Utf8.encode lineEnd

/-- The line that closes the last part. -/
def closing (boundary : Text) : Text := ['-', '-'] ++ boundary ++ ['-', '-'] ++ lineEnd

/-- The parts of a payload. -/
def encode (boundary : Text) (p : Payload) : Bytes :=
  p.data.flatMap (fun v => valuePart boundary v.1 v.2) ++ p.files.flatMap (filePart boundary) ++
    Utf8.encode (closing boundary)

end Multipart

namespace Urlencoded

/-- May the character stand as it is? -/
def mayStand (c : Char) : Bool := c.isAlphanum || "_.-~".toList.contains c

/-- A name or a value; a space becomes a plus sign. -/
def word (t : Text) : Text :=
  t.flatMap fun c => if c = ' ' then ['+'] else Percent.encode mayStand [c]

/-- Pairs in one line. -/
def encode (pairs : Table Text) : Bytes :=
  Utf8.encode (['&'].intercalate (pairs.map fun p => word p.1 ++ ['='] ++ word p.2))

end Urlencoded

/-- The media type and the bytes in which a payload is sent. -/
def Payload.encode (boundary : Text) (p : Payload) : Option Text × Bytes :=
  if p.files != [] then
    (some ("multipart/form-data; boundary=".toList ++ boundary), Multipart.encode boundary p)
  else if p.data != [] then
    (some "application/x-www-form-urlencoded".toList, Urlencoded.encode p.data)
  else (none, [])

end Courier
