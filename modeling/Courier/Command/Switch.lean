import Courier.Text.Blank

/-!
# Switches of the command line

A switch is spelled with two dashes and a name, and some also with one dash and
a letter. Some take a value, the others are given or not.

Key definitions: `Switch`, `Switch.spellings`, `Switch.table`, `Switch.spelled?`.
-/

namespace Courier

/-- What the command line can ask for or set. -/
inductive Switch where
  | help
  | project
  | overrides
  | outputFolder
  | address
  | timeout
  | envFile
  | debug
  | silent
  | logLevel
  | version
  deriving DecidableEq, Repr

namespace Switch

/-- All switches, in the order in which they are looked through. -/
def all : List Switch :=
  [.help, .project, .overrides, .outputFolder, .address, .timeout, .envFile, .debug, .silent,
    .logLevel, .version]

/-- The spellings of a switch. -/
def spellings : Switch → List Text
  | .help => ["-h".toList, "--help".toList]
  | .project => ["-p".toList, "--project-name".toList]
  | .overrides => ["-o".toList, "--overrides".toList]
  | .outputFolder => ["-d".toList, "--output-dir".toList]
  | .address => ["--api-url".toList]
  | .timeout => ["--timeout".toList]
  | .envFile => ["--env-file".toList]
  | .debug => ["--debug".toList]
  | .silent => ["--silent".toList]
  | .logLevel => ["--log-level".toList]
  | .version => ["--version".toList]

/-- What stands for the value of a switch that takes one. -/
def valueName? : Switch → Option Text
  | .help | .debug | .silent | .version => none
  | .project => some "PROJECT_NAME".toList
  | .overrides => some "OVERRIDES".toList
  | .outputFolder => some "OUTPUT_DIR".toList
  | .address => some "API_URL".toList
  | .timeout => some "TIMEOUT".toList
  | .envFile => some "ENV_FILE".toList
  | .logLevel => some "LOG_LEVEL".toList

/-- Does the switch take a value? -/
def takesValue (s : Switch) : Bool := s.valueName?.isSome

/-- What the switch is for. -/
def purpose : Switch → Text
  | .help => "show this help message and exit".toList
  | .project => "Project name sent as 'project-name'".toList
  | .overrides => "Optional overrides file".toList
  | .outputFolder =>
    "Where to save the ZIP (default from CRUD_UPLOADER_OUTPUT_DIR or current directory)".toList
  | .address =>
    "Generator base URL (default from CRUD_UPLOADER_API_URL or http://localhost:8080)".toList
  | .timeout => "Request timeout in seconds (default: wait indefinitely)".toList
  | .envFile => "Load environment variables from this .env file".toList
  | .debug => "Enable debug logs".toList
  | .silent => "Only print errors".toList
  | .logLevel => "Explicit log level (DEBUG/INFO/WARNING/ERROR)".toList
  | .version => "show program's version number and exit".toList

/-- A spelling with what stands for the value. -/
def withValue (s : Switch) (spelling : Text) : Text :=
  match s.valueName? with
  | none => spelling
  | some name => spelling ++ [' '] ++ name

/-- Every spelling with its switch. -/
def table : List (Text × Switch) := all.flatMap fun s => s.spellings.map (·, s)

/-- The switch that a text spells out. -/
def spelled? (t : Text) : Option Switch := table.lookup t

/-- Is the spelling one dash and a letter? -/
def isShort (spelling : Text) : Bool := spelling.length == 2

/-- The spellings of a switch as messages name it. -/
def names (s : Switch) : Text := ['/'].intercalate s.spellings

/-- Every spelling spells its switch. -/
theorem spelled_spellings : ∀ s ∈ all, ∀ t ∈ s.spellings, spelled? t = some s := by decide

end Switch
end Courier
