import Courier.Settings
import Courier.Text.Lower

/-!
# The size of a window

What is shown is broken into lines of so many cells. A window is opened with
the size that the environment tells at that time; what it does not tell then is
looked up again whenever something is shown: in the environment, or else at the
terminals to which the standard streams are connected. A dumb terminal has lines
of eighty cells, whatever is told later.

Key definitions: `Terminals`, `Window`, `Window.opened`, `Window.width`.
-/

namespace Courier

/-- The cells of a line and the lines of the terminals to which the standard streams are
connected; a stream that is not has none. -/
structure Terminals where
  input : Option (Nat × Nat)
  output : Option (Nat × Nat)
  errors : Option (Nat × Nat)
  deriving DecidableEq, Repr

namespace Terminals

/-- No stream is connected to a terminal. -/
def none : Terminals := ⟨.none, .none, .none⟩

/-- The size of the first terminal. -/
def size? (t : Terminals) : Option (Nat × Nat) := (t.input.or t.output).or t.errors

end Terminals

/-- A window, with the size that was settled when it was opened. -/
structure Window where
  /-- The cells of a line. -/
  columns : Option Nat
  /-- The number of lines. -/
  rows : Option Nat
  deriving DecidableEq, Repr

namespace Window

/-- The variable that tells the cells of a line. -/
def widthVariable : Text := "COLUMNS".toList

/-- The variable that tells the number of lines. -/
def heightVariable : Text := "LINES".toList

/-- The count that a variable tells, if it tells one. -/
def told (env : Environment) (variable_ : Text) : Except Fault (Option Nat) :=
  match env.lookup variable_ with
  | none => .ok none
  | some value => (Decimal.count? value).mapError .badSize

/-- A window that is opened in an environment. -/
def opened (env : Environment) : Except Fault Window := do
  let columns ← told env widthVariable
  let rows ← told env heightVariable
  return ⟨columns, rows⟩

/-- The variable that settles whether the output counts as a terminal. -/
def kindVariable : Text := "TTY_COMPATIBLE".toList

/-- The variable that asks for colours, and so for a terminal. -/
def colourVariable : Text := "FORCE_COLOR".toList

/-- The variable that names the kind of the terminal. -/
def nameVariable : Text := "TERM".toList

/-- Does the output count as a terminal? -/
def isTerminal (terminals : Terminals) (env : Environment) : Bool :=
  if env.lookup kindVariable = some ['0'] then false
  else if env.lookup kindVariable = some ['1'] then true
  else
    match env.lookup colourVariable with
    | some value => value != []
    | none => terminals.output.isSome

/-- The names of terminals about which nothing is known. -/
def dumbNames : List Text := ["dumb".toList, "unknown".toList]

/-- Does the output count as a terminal about which nothing is known? -/
def isDumb (terminals : Terminals) (env : Environment) : Bool :=
  isTerminal terminals env && dumbNames.contains (Text.lower ((env.lookup nameVariable).getD []))

/-- The cells of a line where nothing tells them. -/
def usualWidth : Nat := 80

/-- The cells of a line that are told now; no cells count as nothing told. -/
def currentWidth (terminals : Terminals) (told : Option Nat) : Nat :=
  match told.or (terminals.size?.map Prod.fst) with
  | none | some 0 => usualWidth
  | some n => n

/-- The cells of a line of a window. Unless its whole size is settled, the environment is
asked for both parts of it. -/
def width (w : Window) (terminals : Terminals) (env : Environment) : Except Fault Nat :=
  match w.columns, w.rows with
  | some n, some _ => .ok n
  | settled, _ =>
    if isDumb terminals env then .ok usualWidth
    else do
      let now ← told env widthVariable
      let _ ← told env heightVariable
      return settled.getD (currentWidth terminals now)

end Window
end Courier
