import Courier.Console.Window
import Courier.Journal

/-!
# What is logged to the console

Without being asked for, nothing is logged. The user asks for records by a
switch or by naming the least level; a name that is unknown means the level of
information, and two known names stand for what is no level. Asking for silence
wins over both.

Records are shown in a window of their own, which is opened when they are first
asked for.

Key definitions: `Logging`, `Logging.Value`, `Logging.valueOf`, `Logging.rankOf`,
`Logging.setUp`, `Logging.shows`.
-/

namespace Courier

/-- Which records are shown. -/
structure Logging where
  /-- Are all records held back? -/
  silenced : Bool
  /-- Does the console show records? -/
  onConsole : Bool
  /-- Records below this rank are held back. -/
  threshold : Nat
  /-- The window for records, if it was ever opened. -/
  window : Option Window
  deriving DecidableEq, Repr

namespace Logging

/-- The logging before anything is asked for. -/
def unset : Logging := ⟨false, false, Level.warning.number, none⟩

/-- The letters beside the small ASCII ones whose capitals are ASCII letters. -/
def capitals : List (Char × String) :=
  [('\u00df', "SS"), ('\u0131', "I"), ('\u017f', "S"), ('\ufb00', "FF"), ('\ufb01', "FI"),
    ('\ufb02', "FL"), ('\ufb03', "FFI"), ('\ufb04', "FFL"), ('\ufb05', "ST"), ('\ufb06', "ST")]

/-- The capitals of a letter, as far as names need them. -/
def capital (c : Char) : Text :=
  match capitals.lookup c with
  | some letters => letters.toList
  | none => [c.toUpper]

/-- What a known name stands for. -/
inductive Value where
  | rank (n : Nat)
  | text (t : Text)
  /-- Neither a number nor a text, as it is written. -/
  | other (form : Text)
  deriving DecidableEq, Repr

/-- The form of a record. -/
def recordForm : Text := "%(levelname)s:%(name)s:%(message)s".toList

/-- The styles in which the form of a record can be written. -/
def styles : Text :=
  "\x7b'%': (<class 'logging.PercentStyle'>, '%(levelname)s:%(name)s:%(message)s'), ".toList ++
    "'\x7b': (<class 'logging.StrFormatStyle'>, '\x7blevelname\x7d:\x7bname\x7d:".toList ++
    "\x7bmessage\x7d'), ".toList ++
    "'$': (<class 'logging.StringTemplateStyle'>, '$\x7blevelname\x7d:$\x7bname\x7d:".toList ++
    "$\x7bmessage\x7d')\x7d".toList

/-- The names that are known, in capitals, and what they stand for. -/
def names : List (String × Value) :=
  [("NOTSET", .rank 0), ("DEBUG", .rank 10), ("INFO", .rank 20), ("WARN", .rank 30),
    ("WARNING", .rank 30), ("ERROR", .rank 40), ("FATAL", .rank 50), ("CRITICAL", .rank 50),
    ("BASIC_FORMAT", .text recordForm), ("_STYLES", .other styles)]

/-- What a name stands for. -/
def valueOf (name : Text) : Value :=
  match names.find? fun row => row.1.toList == name.flatMap capital with
  | some row => row.2
  | none => .rank Level.info.number

/-- The rank that a name stands for. -/
def rankOf (name : Text) : Except Fault Nat :=
  match valueOf name with
  | .rank n => .ok n
  | .text t => .error (.notALevel t)
  | .other form => .error (.noLevel form)

/-- The name of a rank. -/
def modeOf (rank : Nat) : Text :=
  match Level.all.find? (·.number == rank) with
  | some level => level.name
  | none => "NOTSET".toList

/-- The name of the mode in which nothing is logged. -/
def silentMode : Text := "silent".toList

/-- The least rank of a record that is never logged. -/
def silentThreshold : Nat := 51

/-- The window for records: the one that is open already, or one that is opened now. -/
def windowIn (l : Logging) (env : Environment) : Except Fault Window :=
  match l.window with
  | some w => .ok w
  | none => Window.opened env

/-- Sets up what is shown, and gives the name of the mode. A name that stands for
no rank stops the work when the console shows records already. -/
def setUp (env : Environment) (debug silent : Bool) (name : Option Text) : Act Logging Text :=
  fun l =>
    if silent || (!debug && (name.getD []).isEmpty) then
      (.ok silentMode, ⟨true, false, silentThreshold, l.window⟩)
    else
      match l.windowIn env with
      | .error f => (.error f, { l with silenced := false, onConsole := false })
      | .ok w =>
        match (if debug then .ok Level.debug.number else rankOf (name.getD [])) with
        | .error f => (.error f, { l with silenced := false, onConsole := true, window := some w })
        | .ok rank => (.ok (modeOf rank), ⟨false, true, rank, some w⟩)

/-- Is a record of the level let through? -/
def isEnabled (l : Logging) (level : Level) : Bool := !l.silenced && l.threshold ≤ level.number

/-- Is a record of the level shown on the console? -/
def shows (l : Logging) (level : Level) : Bool := l.isEnabled level && l.onConsole

/-- The cells of a line of the window for records; none where there is no window, or where
they cannot be told. -/
def width? (l : Logging) (terminals : Terminals) (env : Environment) : Option Nat :=
  l.window.bind fun w => (w.width terminals env).toOption

end Logging
end Courier
