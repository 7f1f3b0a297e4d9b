import Courier.Bytes.Utf16
import Courier.Fault
import Courier.Http.Headers

/-!
# The encoding of a body

The media type of a body may name its encoding in the parameter `charset`. A
known encoding is used, and UTF-8 where none is named or the name is unknown.
Reading is lenient: what cannot be read is shown as U+FFFD.

Four encodings are read here. The platform may know more of them; an encoding
of its own may give another text in place of what it cannot read, or fail.

Key definitions: `Charset`, `Codecs`, `Charset.ofName?`, `Charset.parameter?`,
`Charset.decode`, `Codecs.read`.
-/

namespace Courier

/-- The encodings of a platform beside the ones that are read here. -/
structure Codecs where
  /-- The lenient reading of the encoding with a name, if there is one. -/
  lenient : Text → Option (Bytes → Except Fault Text)
  /-- The text that bytes spell in the encoding with a name, if there is one and all of them
  can be read. -/
  strict : Text → Bytes → Option Text

/-- The platform that knows no more encodings. -/
def Codecs.none : Codecs := ⟨fun _ => .none, fun _ _ => .none⟩

instance : Repr Codecs := ⟨fun _ _ => "codecs"⟩

/-- The encodings that are read here. -/
inductive Charset where
  | utf8
  | latin1
  | ascii
  | utf16
  deriving DecidableEq, Repr

namespace Charset

/-- The names of the encodings, each in small letters with single underscores for
all other characters than letters and digits. -/
def names : List (String × Charset) :=
  [("utf_8", utf8), ("utf8", utf8), ("u8", utf8), ("utf", utf8), ("cp65001", utf8),
    ("utf8_ucs2", utf8), ("utf8_ucs4", utf8),
    ("iso_8859_1", latin1), ("iso8859_1", latin1), ("iso8859", latin1), ("8859", latin1),
    ("iso_8859_1_1987", latin1), ("latin_1", latin1), ("latin1", latin1), ("latin", latin1), ("l1", latin1),
    ("cp819", latin1), ("ibm819", latin1), ("iso_ir_100", latin1), ("csisolatin1", latin1),
    ("us_ascii", ascii), ("ascii", ascii), ("us", ascii), ("646", ascii), ("iso646_us", ascii),
    ("cp367", ascii), ("ibm367", ascii), ("ansi_x3.4_1968", ascii), ("ansi_x3.4_1986", ascii),
    ("ansi_x3_4_1968", ascii),
    ("iso_ir_6", ascii), ("iso_646.irv_1991", ascii), ("csascii", ascii),
    ("utf_16_le", utf16), ("utf_16le", utf16), ("unicodelittleunmarked", utf16)]

/-- Is the character kept in the name of an encoding? -/
def isNameChar (c : Char) : Bool := c.isAlphanum || c == '.'

/-- The name of an encoding in the form of the table. -/
def normalName (name : Text) : Text :=
  let words := (name.map fun c => if isNameChar c then c.toLower else ' ').splitBy
    fun a b => a != ' ' && b != ' '
  ['_'].intercalate (words.filter fun word => word.head? != some ' ')

/-- What the table says of a name in its form. -/
def find? (name : Text) : Option Charset :=
  (names.find? fun row => row.1.toList == name).map Prod.snd

/-- The encoding of a name, whose points may also stand for underscores. -/
def ofName? (name : Text) : Option Charset :=
  (find? (normalName name)).or
    (find? ((normalName name).map fun c => if c = '.' then '_' else c))

/-- The text that a byte sequence spells, if all of it can be read. -/
def decode? (charset : Charset) (bs : Bytes) : Option Text :=
  match charset with
  | utf8 => (Utf8.decode bs).toOption
  | latin1 => some (Latin1.decode bs)
  | ascii => if bs.all (·.toNat < 0x80) then some (Latin1.decode bs) else none
  | utf16 => Utf16.decode? bs

/-- The bytes of a text in which a character beyond Latin-1 is written as its number. -/
def escaped (t : Text) : Bytes :=
  t.flatMap fun c =>
    if c.toNat < 0x100 then [.ofNat c.toNat]
    else Utf8.encode (if c.toNat < 0x10000 then ['\\', 'u'] ++ Text.hexDigits 4 c.toNat
      else ['\\', 'U'] ++ Text.hexDigits 8 c.toNat)

/-- The name of the encoding in which a value is read that names none. -/
def usualName : Text := "us-ascii".toList

/-- The name of an encoding that is told in a value of its own encoding. Where the value
cannot be read in that encoding, its characters are taken as they are. -/
def nameIn (codecs : Codecs) (encoding value : Text) : Except Fault Text :=
  if encoding.contains '\x00' then .error .nullInEncoding
  else
    let told? := match ofName? encoding with
      | some charset => charset.decode? (escaped value)
      | none => codecs.strict encoding (escaped value)
    .ok (told?.getD value)

/-- The encoding that a media type names; a name with other characters than ASCII
ones counts for nothing. -/
def parameter? (codecs : Codecs) (mediaType : Text) : Except Fault (Option Text) := do
  let value? ← (Parameter.find? mediaType "charset".toList).mapError .parameter
  let name? ← value?.mapM fun
    | .plain name => .ok name
    | .encoded encoding name => nameIn codecs (if encoding = [] then usualName else encoding) name
  return name?.filter fun name => name.all fun c => c.toNat < 0x80

/-- The encoding that header fields name for the body that comes with them. -/
def ofHeaders (codecs : Codecs) (hs : Headers) : Except Fault (Option Text) :=
  match hs.get? "content-type".toList with
  | none => .ok none
  | some mediaType => parameter? codecs mediaType

/-- The text that a byte sequence spells. -/
def decode (charset : Charset) (bs : Bytes) : Text :=
  match charset with
  | utf8 => Utf8.decodeLossy bs
  | latin1 => Latin1.decode bs
  | ascii => bs.map fun b => if b.toNat < 0x80 then .ofNat b.toNat else '\ufffd'
  | utf16 => Utf16.decodeLossy bs

end Charset

/-- The text that a byte sequence spells in the encoding with a name, read leniently. -/
def Codecs.read (codecs : Codecs) (name? : Option Text) (bs : Bytes) : Except Fault Text :=
  match name? with
  | .none => .ok (Charset.utf8.decode bs)
  | some name =>
    if name.contains '\x00' then .error .nullInEncoding
    else
      match Charset.ofName? name, codecs.lenient name with
      | some charset, _ => .ok (charset.decode bs)
      | .none, some reading => reading bs
      | .none, .none => .ok (Charset.utf8.decode bs)

end Courier
