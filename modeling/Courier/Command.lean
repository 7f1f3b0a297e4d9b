import Courier.Command.Logging
import Courier.Command.Manual
import Courier.Command.Plan
import Courier.Console.Screen
import Courier.Session

/-!
# The command

The command reads its arguments, makes its plan, shows it, runs one submit
cycle and tells where the archive was saved. Its exit code is 0 when an archive
was saved or nothing was to be done, 1 when there is none, 2 when the arguments
are refused, and 130 when the user has interrupted it. A fault that nothing on
the way holds back comes out in place of an exit code.

Key definitions: `World`, `Surroundings`, `Command.carryOut`, `Command.submit`,
`Command.proceed`, `Command.run`.
-/

namespace Courier

/-- What a command looks at and changes. The wire has a state of type `τ`. -/
structure World (τ : Type) where
  desk : Desk τ
  environment : Environment
  /-- The window for the panel and the status texts; it was opened beforehand. -/
  window : Window
  logging : Logging
  output : Text
  errors : Text
  deriving Repr

/-- What stays the same while a command runs. -/
structure Surroundings (τ : Type) where
  /-- The home folders of users, given the environment. -/
  homeOf : Environment → Text → Option Text
  /-- The text that separates the fields of a request. -/
  boundary : Text
  /-- The encodings of the platform. -/
  codecs : Codecs
  /-- The terminals of the standard streams. -/
  terminals : Terminals
  /-- How requests are answered. -/
  transport : Request → Act τ Response

namespace World

variable {τ : Type}

/-- The world before a command. -/
def start (tree : Tree) (env : Environment) (window : Window) (wire : τ) : World τ :=
  ⟨Desk.start tree wire, env, window, Logging.unset, [], []⟩

/-- The file tree. -/
def tree (w : World τ) : Tree := w.desk.depot.tree

/-- The world with more output. -/
def say (w : World τ) (text : Text) : World τ := { w with output := w.output ++ text }

/-- The world with one error line more. -/
def complain (w : World τ) (text : Text) : World τ := { w with errors := w.errors ++ text ++ ['\n'] }

/-- The world with the error line of a fault in what was given. -/
def reject (w : World τ) (text : Text) : World τ := w.complain ("ERROR: ".toList ++ text)

end World

namespace Command

variable {τ : Type}

/-- The command did what was asked. -/
def success : Nat := 0

/-- The command has no archive to show. -/
def failure : Nat := 1

/-- The user interrupted the command. -/
def cancelled : Nat := 130

/-- Runs one submit cycle in a session of its own and tells what was saved. -/
def carryOut (s : Surroundings τ) (env : Environment) (settings : Settings) (form : Form) :
    Act (Desk τ) (Option Path) := fun d =>
  match Session.ofSettings (s.homeOf env) s.boundary s.codecs settings with
  | .error f => (.error f, d)
  | .ok session =>
    match session.enter d with
    | (.error f, d) => (.error f, d)
    | (.ok (), d) =>
      let (outcome, d) := session.submit s.transport form d
      let (_, d) := Session.leave d
      (outcome.map fun _ => d.depot.lastSaved, d)

/-- Carries the plan out; what happens is shown on the console, the status texts in lines of
so many cells. -/
def submit (s : Surroundings τ) (width : Nat) (plan : Plan) : Act (World τ) Nat := fun w =>
  let (outcome, d) := carryOut s w.environment plan.settings plan.form w.desk
  let w := { w with desk := d }.say (Screen.ofJournal width
    (w.logging.width? s.terminals w.environment) w.logging.shows d.journal)
  match outcome with
  | .ok (some p) => (.ok success, w.say ("Saved: ".toList ++ p.text ++ ['\n']))
  | .ok none => (.ok failure, w)
  | .error f =>
    if f.isInterrupt then (.ok cancelled, w.complain "Cancelled.".toList) else (.error f, w)

/-- Plans the command with a schema file, shows the plan and carries it out. -/
def proceed (s : Surroundings τ) (o : Options) (schema : Path) (envFile : Option Path)
    (mode : Text) : Act (World τ) Nat := fun w =>
  match o.plan schema (s.homeOf w.environment) w.tree w.environment with
  | .error f =>
    match Plan.complaint? f with
    | some text => (.ok failure, w.reject text)
    | none => (.error f, w)
  | .ok plan =>
    match w.window.width s.terminals w.environment with
    | .error f => (.error f, w)
    | .ok width =>
      match Summary.render width (plan.summary envFile mode) with
      | .error f => (.error f, w)
      | .ok panel => submit s width plan (w.say panel)

/-- Follows the options. Without a schema file the manual is shown. -/
def follow (s : Surroundings τ) (o : Options) : Act (World τ) Nat := fun w =>
  match o.loadVariables w.tree w.environment with
  | (.error f, env) =>
    let w := { w with environment := env }
    match Plan.variableComplaint? f with
    | some text => (.ok failure, w.reject text)
    | none => (.error f, w)
  | (.ok envFile, env) =>
    match Logging.setUp env o.debug o.silent o.logLevel w.logging with
    | (.error f, l) => (.error f, { w with environment := env, logging := l })
    | (.ok mode, l) =>
      let w := { w with environment := env, logging := l }
      match o.schema with
      | none => (.ok success, w.say (Manual.text (Manual.lineWidth s.terminals env)))
      | some schema => proceed s o schema envFile mode w

/-- Runs the command with its arguments. -/
def run (s : Surroundings τ) (arguments : List Text) : Act (World τ) Nat := fun w =>
  match Arguments.parse arguments with
  | .error stop =>
    let width := Manual.lineWidth s.terminals w.environment
    (.ok stop.exitCode, { w with
      output := w.output ++ stop.output width, errors := w.errors ++ stop.errors width })
  | .ok o => follow s o w

end Command
end Courier
