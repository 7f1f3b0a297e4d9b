import Courier.Command.Arguments
import Courier.Console.Summary
import Courier.Decimal.General
import Courier.Form.Chosen
import Courier.Settings.EnvFile

/-!
# The plan of a command

Before anything is sent, the options are completed: variables are read from a
file into the environment, the chosen files are checked, the settings are
settled and the form is filled. What is planned is shown in the summary panel.

Of the faults on the way some are told to the user; the others end the command.

Key definitions: `Options.loadVariables`, `Plan`, `Options.settings`, `Options.plan`,
`Plan.complaint?`, `Plan.summary`.
-/

namespace Courier

/-- What a command is about to do. -/
structure Plan where
  schema : Path
  overrides : Option Path
  settings : Settings
  form : Form
  deriving Repr

namespace Options

/-- The file of variables: the one that is named, or the standard one if it stands. -/
def variableFile? (o : Options) (t : Tree) : Except Fault (Option Path) :=
  match o.envFile with
  | some p => .ok (some p)
  | .none => EnvFile.standard? t

/-- Sets the variables of the file, where there is one, and tells which file it is. -/
def loadVariables (o : Options) (t : Tree) : Act Environment (Option Path) := fun env =>
  match o.variableFile? t with
  | .error f => (.error f, env)
  | .ok .none => (.ok .none, env)
  | .ok (some p) =>
    match EnvFile.load t p false env with
    | (.error f, env) => (.error f, env)
    | (.ok (), env) => (.ok (some p), env)

/-- What the options set in place of the environment. -/
def toOverrides (o : Options) : Overrides :=
  ⟨o.address, .none, .none, o.outputFolder, o.timeout⟩

/-- The settings that the options and the environment give. -/
def settings (o : Options) (env : Environment) : Except Fault Settings :=
  Settings.fromEnvironment env o.toOverrides

/-- The path of the chosen overrides, checked. -/
def checkedOverrides (o : Options) (homeOf : Text → Option Text) (t : Tree) :
    Except Fault (Option Path) :=
  match o.overrides with
  | .none => .ok .none
  | some p => (Form.checkInput homeOf t "overrides".toList p).map some

/-- The plan of a command with a schema file. -/
def plan (o : Options) (schema : Path) (homeOf : Text → Option Text) (t : Tree)
    (env : Environment) : Except Fault Plan :=
  match Form.checkInput homeOf t "SQL".toList schema with
  | .error f => .error f
  | .ok schema =>
    match o.checkedOverrides homeOf t with
    | .error f => .error f
    | .ok overrides =>
      match o.settings env with
      | .error f => .error f
      | .ok settings =>
        match Form.fromPaths t (some schema) (some o.project) overrides with
        | .error f => .error f
        | .ok form => .ok ⟨schema, overrides, settings, form⟩

end Options

namespace Plan

/-- What the user is told of a fault in a file of variables, if anything. -/
def variableComplaint? : Fault → Option Text
  | .unusable text => some text
  | _ => none

/-- What the user is told of a fault in the planning, if anything. -/
def complaint? (f : Fault) : Option Text :=
  match f with
  | .unusable text => some text
  | .badTimeout _ => some f.message
  | .system .. => some ("could not read input: ".toList ++ f.message)
  | _ => none

/-- A timeout as the summary shows it. To wait for no time is to wait forever. -/
def timeoutText : Option Float → Text
  | none => "none".toList
  | some x => if x == 0 then "none".toList else Decimal.general x ++ ['s']

/-- A path as the summary shows it. -/
def pathText : Option Path → Text
  | none => ['-']
  | some p => p.text

/-- The project name as the summary shows it. -/
def projectText : Text → Text
  | [] => "(missing)".toList
  | name => name

/-- What the summary panel shows. -/
def summary (p : Plan) (envFile : Option Path) (mode : Text) : List (Text × Summary.Value) :=
  [("SQL".toList, .text p.schema.text),
    ("Overrides".toList, .text (pathText p.overrides)),
    ("Project".toList, .text (projectText p.form.trimmedProject)),
    ("API".toList, .text (p.settings.baseUrl ++ p.settings.endpoint)),
    ("Output Dir".toList, .text p.settings.outputFolder.text),
    ("Timeout".toList, .text (timeoutText p.settings.timeout)),
    ("Env File".toList, .text (pathText envFile)),
    ("Logging".toList, .text mode)]

end Plan
end Courier
