import Courier.Console.Colour
import Courier.Console.Literal
import Courier.Path
import Courier.Deflate.Code
import Courier.Decimal.Count
import Courier.Http.Disposition
import Courier.Http.Parameter
import Courier.Http.Url

/-!
# What can go wrong

A fault is kept by its cause; its wording is one function of it. A fault is
the system's answer to an operation on the file tree, a finding of the library
itself, a report of a collaborator that the library does not know more about,
or the user's interrupt, which no handler of the library holds back.

A collaborator makes its failures itself, and may get that wrong: asking such a
failure for its words, or for its form, may be a failure in turn.

Key definitions: `SystemCode`, `Report`, `Fault`, `Fault.message`, `Fault.words`,
`Fault.describe`.
-/

namespace Courier

/-- The reasons for which the system refuses an operation on the file tree. -/
inductive SystemCode where
  | notFound
  | inputOutput
  | busy
  | exists
  | notFolder
  | isFolder
  | nameTooLong
  | notEmpty
  deriving DecidableEq, Repr

namespace SystemCode

/-- The number of a reason. -/
def number : SystemCode → Nat
  | .notFound => 2
  | .inputOutput => 5
  | .busy => 16
  | .exists => 17
  | .notFolder => 20
  | .isFolder => 21
  | .nameTooLong => 36
  | .notEmpty => 39

/-- A reason in words. -/
def words : SystemCode → Text
  | .notFound => "No such file or directory".toList
  | .inputOutput => "Input/output error".toList
  | .busy => "Device or resource busy".toList
  | .exists => "File exists".toList
  | .notFolder => "Not a directory".toList
  | .isFolder => "Is a directory".toList
  | .nameTooLong => "File name too long".toList
  | .notEmpty => "Directory not empty".toList

end SystemCode

/-- The text of a numbered failure, with the file that it is about. -/
def numberedText (number : Int) (words : Text) (file : Option Text) : Text :=
  "[Errno ".toList ++ Text.ofInt number ++ "] ".toList ++ words ++
    (match file with
      | none => []
      | some f => ": ".toList ++ Text.quoted f)

/-- A failure that a collaborator reports under a name of its own. -/
inductive Report where
  /-- A failure with or without a message. -/
  | plain (name : Text) (message : Option Text)
  /-- A failed look-up; the message is the key and is shown in quotes. -/
  | lookup (name : Text) (key : Text)
  /-- A numbered failure of a system call. -/
  | numbered (name : Text) (number : Int) (words : Text) (file : Option Text)
  /-- A failure with words and a form of its own making. -/
  | own (name words form : Text)
  deriving DecidableEq, Repr

namespace Report

/-- The name of the failure. -/
def name : Report → Text
  | .plain n _ | .lookup n _ | .numbered n .. | .own n .. => n

/-- What the failure says. -/
def message : Report → Text
  | .plain _ m => m.getD []
  | .lookup _ key => Text.quoted key
  | .numbered _ n words file => numberedText n words file
  | .own _ words _ => words

/-- The failure written with its name and what was told about it. -/
def form : Report → Text
  | .plain n m => n ++ ['('] ++ (m.map Text.quoted).getD [] ++ [')']
  | .lookup n key => n ++ ['('] ++ Text.quoted key ++ [')']
  | .numbered n k words _ =>
    n ++ ['('] ++ Text.ofInt k ++ ", ".toList ++ Text.quoted words ++ [')']
  | .own _ _ form => form

end Report

/-- The cause of a failure. -/
inductive Fault where
  /-- The system refuses an operation on a path, or on a path and a second one. -/
  | system (code : SystemCode) (path : Option Text) (second : Option Text)
  /-- A path or a variable holds the null character. -/
  | nullCharacter
  /-- Too many folders are missing on the way to one. -/
  | tooDeep
  /-- A path without a name cannot be numbered. -/
  | emptyName (path : Path)
  /-- No home folder is known for a path that starts with a tilde. -/
  | unknownHome
  /-- The file name of a response cannot be read. -/
  | disposition (fault : Disposition.Fault)
  /-- The parameters of a media type cannot be read. -/
  | parameter (fault : Parameter.Fault)
  /-- The bytes of a file are not UTF-8. -/
  | notUtf8 (fault : Utf8.Fault)
  /-- A request is to be built from a form without a schema file. -/
  | noSchema
  /-- A request is to be sent while the client is closed. -/
  | clientClosed
  /-- A form is submitted to a session that was never opened. -/
  | neverOpened
  /-- A text is no address. -/
  | address (fault : Url.Fault)
  /-- The host of an address stands for no name. -/
  | hostName (fault : HostName.Fault)
  /-- The text of an address names no kind of address. -/
  | unknownKind (text : Text)
  /-- A coding of the body of a response cannot be undone. -/
  | coding (flaw : Deflate.Flaw)
  /-- The name of an encoding holds the null character. -/
  | nullInEncoding
  /-- A redirection leads to what is no address. -/
  | badLocation (fault : Url.Fault)
  /-- A request was redirected too often. -/
  | tooManyRedirects
  /-- The timeout in the environment is not a number. -/
  | badTimeout (raw : Text)
  /-- The name of a log level stands for a text that is none. -/
  | notALevel (value : Text)
  /-- The name of a log level stands for what is neither a number nor a text. -/
  | noLevel (form : Text)
  /-- The size of the screen is told in digits that make no number. -/
  | badSize (fault : Decimal.IntFault)
  /-- The screen is told to be wider than anything can be. -/
  | tooWide
  /-- A closing tag at a place of a text closes nothing. -/
  | unopenedTag (tag : Text) (place : Nat)
  /-- A closing tag without a name stands where nothing is open. -/
  | nothingToClose (place : Nat)
  /-- The arguments of an action cannot be read. -/
  | unreadableAction (arguments action : Text) (fault : Literal.Fault)
  /-- The arguments of an action have no value. -/
  | worthlessAction (action : Text) (fault : Literal.Misfit)
  /-- A tag names a colour that is left incomplete. -/
  | colour (fault : Colour.Fault)
  /-- The command line or what it refers to is unusable. -/
  | unusable (message : Text)
  /-- A collaborator reports a failure. -/
  | reported (report : Report)
  /-- A collaborator fails, and asking its failure for words is a failure too. -/
  | wordless (why : Fault)
  /-- A collaborator fails with blank words, and asking its failure for its form is a
  failure too. -/
  | formless (blank : Text) (why : Fault)
  /-- The user interrupts the program. -/
  | interrupted (message : Option Text)
  deriving DecidableEq, Repr

namespace Fault

/-- The fault in words; there are none where they cannot be asked for. -/
def message : Fault → Text
  | .system code path second =>
    numberedText code.number code.words path ++
      (match second with
        | none => []
        | some t => " -> ".toList ++ Text.quoted t)
  | .nullCharacter => "embedded null byte".toList
  | .tooDeep => "maximum recursion depth exceeded while calling a Python object".toList
  | .emptyName path => path.quoted ++ " has an empty name".toList
  | .unknownHome => "Could not determine home directory.".toList
  | .disposition fault => fault.message
  | .parameter fault => fault.message
  | .notUtf8 fault => fault.message
  | .noSchema => "sql file is required".toList
  | .clientClosed =>
    "HTTPGenerationClient not initialized. Use 'async with' context.".toList
  | .neverOpened => []
  | .address fault => fault.message
  | .hostName fault => fault.message
  | .unknownKind text => "unknown url type: ".toList ++ Text.quoted text
  | .coding flaw => flaw.message
  | .nullInEncoding => "embedded null character".toList
  | .badLocation fault => "Invalid URL in location header: ".toList ++ fault.message ++ ['.']
  | .tooManyRedirects => "Exceeded maximum allowed redirects.".toList
  | .badTimeout raw => "CRUD_UPLOADER_TIMEOUT must be a number, got ".toList ++ Text.quoted raw
  | .notALevel value => "Unknown level: ".toList ++ Text.quoted value
  | .noLevel form => "Level not an integer or a valid string: ".toList ++ form
  | .badSize fault => fault.message
  | .tooWide => "cannot fit 'int' into an index-sized integer".toList
  | .unopenedTag tag place =>
    "closing tag '[".toList ++ tag ++ "]' at position ".toList ++ Text.ofNat place ++
      " doesn't match any open tag".toList
  | .nothingToClose place =>
    "closing tag '[/]' at position ".toList ++ Text.ofNat place ++ " has nothing to close".toList
  | .unreadableAction arguments action fault =>
    "error parsing ".toList ++ Text.quoted arguments ++ " in ".toList ++ Text.quoted action ++
      "; ".toList ++ fault.message
  | .worthlessAction action fault =>
    "error parsing ".toList ++ Text.quoted action ++ "; ".toList ++ fault.message
  | .colour fault => fault.message
  | .unusable message => message
  | .reported report => report.message
  | .wordless _ => []
  | .formless blank _ => blank
  | .interrupted message => message.getD []

/-- What comes of asking the fault for its words. -/
def words : Fault → Except Fault Text
  | .wordless why => .error why
  | f => .ok f.message

/-- Is the fault the user's interrupt? -/
def isInterrupt : Fault → Bool
  | .interrupted _ => true
  | _ => false

/-- Is the fault an answer of the system? -/
def isSystem : Fault → Bool
  | .system .. => true
  | _ => false

/-- The fault as the user is told: its words, or its name and form when it says nothing. -/
def describe (f : Fault) : Except Fault Text :=
  match f.words with
  | .error why => .error why
  | .ok words =>
    match Text.trim words, f with
    | [], .reported report => .ok (report.name ++ ": ".toList ++ report.form)
    | [], .formless _ why => .error why
    | told, _ => .ok told

end Fault

/-- The path with a first component that starts with a tilde replaced by a home folder.
The system is not asked about a user whose name holds the null character. -/
def Path.expandHome (homeOf : Text → Option Text) (p : Path) : Except Fault Path :=
  match p.expandHome? homeOf with
  | some p => .ok p
  | none => .error (if (p.parts.head?.getD []).contains '\x00' then .nullCharacter else .unknownHome)

/-- An action on a state of type `σ`: it may fail, and the state outlives the failure. -/
abbrev Act (σ : Type) : Type → Type := ExceptT Fault (StateM σ)

end Courier
