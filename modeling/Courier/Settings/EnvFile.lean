import Courier.Settings
import Courier.Text.Lines
import Courier.Text.Split
import Courier.Tree

/-!
# Files of environment variables

Each line of the file sets a variable: a name, an equals sign and a value, with
white space around either and an optional word `export` in front. One pair of
equal quotes around a value is taken off. Lines that are blank, start with a
hash or have no equals sign say nothing. A variable that stands in the
environment already keeps its value, unless the file is to override it.

Key definitions: `EnvFile.assignment?`, `EnvFile.applyText`, `EnvFile.load`.
-/

namespace Courier.EnvFile

/-- The text without a pair of equal quotes around it. -/
def stripQuotes (t : Text) : Text :=
  match t with
  | q :: c :: cs =>
    if (q = '\'' || q = '"') && (c :: cs).getLast? = some q then (c :: cs).dropLast else t
  | _ => t

/-- The line without the word `export` and the white space after it. -/
def dropExport (line : Text) : Text :=
  match Text.dropLead? "export ".toList line with
  | some rest => Text.trim rest
  | none => line

/-- The variable that a line sets, and its value. -/
def assignment? (raw : Text) : Option (Text × Text) :=
  let line := Text.trim raw
  if line = [] || line.head? = some '#' then none
  else
    (Text.cut '=' (dropExport line)).bind fun (key, value) =>
      if Text.trim key = [] then none
      else some (Text.trim key, stripQuotes (Text.trim value))

/-- Does the file set this variable here? -/
def takesEffect (override : Bool) (env : Environment) (key : Text) : Bool :=
  override || (env.lookup key).isNone

/-- Sets variables one after another; the null character stops the work, and
what was set before it stays. -/
def assign (override : Bool) : List (Text × Text) → Act Environment Unit
  | [], env => (.ok (), env)
  | (key, value) :: rest, env =>
    if takesEffect override env key then
      if key.contains '\x00' || value.contains '\x00' then (.error .nullCharacter, env)
      else assign override rest (env.set key value)
    else assign override rest env

/-- Sets the variables of a file's text. -/
def applyText (override : Bool) (text : Text) : Act Environment Unit :=
  assign override ((Text.lines text).filterMap assignment?)

/-- The text of the file at a path. -/
def readText (t : Tree) (p : Path) : Except Fault Text :=
  match t.exists? p, t.isFile? p with
  | .error f, _ => .error f
  | .ok false, _ => .error (.unusable ("env file not found: ".toList ++ p.text))
  | .ok true, .error f => .error f
  | .ok true, .ok false => .error (.unusable ("env path is not a file: ".toList ++ p.text))
  | .ok true, .ok true =>
    match t.read p with
    | .error f =>
      if f.isSystem then
        .error (.unusable ("could not read env file ".toList ++ p.text ++ ": ".toList ++ f.message))
      else .error f
    | .ok bytes => (Utf8.decode bytes).mapError .notUtf8

/-- Sets the variables of the file at a path. -/
def load (t : Tree) (p : Path) (override : Bool) : Act Environment Unit := fun env =>
  match readText t p with
  | .error f => (.error f, env)
  | .ok text => applyText override text env

/-- The path of the file that is read where no other is named. -/
def standardPath : Path := .ofText ".env".toList

/-- The file that is read where no other is named, if it stands. -/
def standard? (t : Tree) : Except Fault (Option Path) :=
  (t.isFile? standardPath).map fun b => if b then some standardPath else none

end Courier.EnvFile
