import Courier.Command.Arguments
import Courier.Console.Window
import Courier.Text.Paragraph

/-!
# What the command tells about itself

The usage and the manual are set for a line of so many characters as the
environment says a line has, or else the terminal, or else for a line of eighty;
two of them stay free. A refusal is told after the usage.

Key definitions: `Manual.lineWidth`, `Manual.usage`, `Manual.text`, `Stop.output`,
`Stop.errors`, `Stop.exitCode`.
-/

namespace Courier

namespace Manual

/-- The name of the command. -/
def commandName : Text := "crud-up".toList

/-- The version of the command. -/
def version : Text := "0.1.0".toList

/-- What the command does. -/
def summary : Text :=
  "Upload a SQL schema to the CRUD generator and download the generated project ZIP.".toList

/-- The name of the schema file among the arguments. -/
def schemaName : Text := "sql".toList

/-- What the schema file is. -/
def schemaPurpose : Text := "SQL schema file".toList

/-- The characters of a line that are set. -/
def lineWidth (terminals : Terminals) (env : Environment) : Int :=
  let told := ((env.lookup Window.widthVariable).bind Decimal.readInt?).getD 0
  (if 0 < told then told
    else
      match terminals.output with
      | none | some (0, _) => Window.usualWidth
      | some (n, _) => n) - 2

/-- Lines put one under the other. -/
def lines (ls : List Text) : Text := ls.flatMap (· ++ ['\n'])

/-- So many spaces. -/
def spaces (n : Nat) : Text := List.replicate n ' '

/-! ### The usage -/

/-- Parts in rows of a given width: a row starts after `start` characters, and the first one,
on which some parts may stand already, has `used` of them. -/
def rows (width start : Int) : (used : Int) → (row : List Text) → List Text → List (List Text)
  | _, row, [] => if row = [] then [] else [row]
  | used, row, part :: parts =>
    if width < used + 1 + part.length && row != [] then
      row :: rows width start (start + 1 + part.length) [part] parts
    else rows width start (used + 1 + part.length) (row ++ [part]) parts

/-- Parts in indented lines of a given width. -/
def indented (width : Int) (indent : Nat) (parts : List Text) : List Text :=
  let start : Int := indent - 1
  (rows width start start [] parts).map fun row => spaces indent ++ [' '].intercalate row

/-- What the usage starts with. -/
def usageLead : Text := "usage: ".toList

/-- The parts of the usage that show the switches. -/
def switchParts : List Text :=
  Switch.all.map fun s => ['['] ++ s.withValue (s.spellings.headD []) ++ [']']

/-- The part of the usage that shows the schema file. -/
def schemaPart : Text := ['['] ++ schemaName ++ [']']

/-- The lines of the usage after its lead: one line, if it fits; else the switches and the
schema file below the name of the command, or beside it, where there is room. -/
def usageLines (width : Int) : List Text :=
  let whole := [' '].intercalate (commandName :: switchParts ++ [schemaPart])
  let head := usageLead.length + commandName.length
  if usageLead.length + whole.length ≤ width then [whole]
  else if 4 * (head : Int) ≤ 3 * width then
    let indent := head + 1
    match rows width head (usageLead.length - 1) [] (commandName :: switchParts) with
    | [] => []
    | first :: rest =>
      [' '].intercalate first ::
        (rest.map fun row => spaces indent ++ [' '].intercalate row) ++
          indented width indent [schemaPart]
  else
    let indent := usageLead.length
    let together := indented width indent (switchParts ++ [schemaPart])
    commandName ::
      (if 1 < together.length then
        indented width indent switchParts ++ indented width indent [schemaPart]
      else together)

/-- How the command is called. -/
def usage (width : Int) : Text := usageLead ++ lines (usageLines width)

/-! ### The manual -/

/-- The narrowest column of text. -/
def narrowest : Int := 11

/-- A paragraph in lines of a given width, but in no narrower ones than the narrowest. -/
def paragraph (width : Int) (t : Text) : List Text := Paragraph.lines (max width narrowest).toNat t

/-- The place at which explanations start. -/
def column (width : Int) : Nat := (min 24 (max (width - 20) 4)).toNat

/-- An entry with its explanation, which starts on the line of the entry, if there is room. -/
def entry (width : Int) (name explanation : Text) : List Text :=
  let place := column width
  let told := paragraph (width - place) explanation
  if name.length + 4 ≤ place then
    match told with
    | [] => [spaces 2 ++ name]
    | first :: rest =>
      (spaces 2 ++ name ++ spaces (place - 2 - name.length) ++ first) ::
        rest.map (spaces place ++ ·)
  else (spaces 2 ++ name) :: told.map (spaces place ++ ·)

/-- How a switch is given. -/
def invocation (s : Switch) : Text := ", ".toList.intercalate (s.spellings.map s.withValue)

/-- What the command does, and what each argument means. -/
def body (width : Int) : Text :=
  lines ([[]] ++ paragraph width summary ++ [[], "positional arguments:".toList] ++
    entry width schemaName schemaPurpose ++ [[], "options:".toList] ++
    Switch.all.flatMap fun s => entry width (invocation s) s.purpose)

/-- The whole manual. -/
def text (width : Int) : Text := usage width ++ body width

end Manual

namespace Stop

/-- What a stop leaves on the output. -/
def output (width : Int) : Stop → Text
  | .help => Manual.text width
  | .version => Manual.commandName ++ [' '] ++ Manual.version ++ ['\n']
  | .refused _ => []

/-- What a stop leaves among the errors. -/
def errors (width : Int) : Stop → Text
  | .help | .version => []
  | .refused r =>
    Manual.usage width ++ Manual.commandName ++ ": error: ".toList ++ r.message ++ ['\n']

/-- The exit code of a stop. -/
def exitCode : Stop → Nat
  | .help | .version => 0
  | .refused _ => 2

end Stop
end Courier
