import Courier.Command.Switch
import Courier.Decimal.Digit
import Courier.Decimal.Reader
import Courier.Path

/-!
# The arguments of a command

Each argument is first read alone. It is a value when it is empty or does not
start with a dash, and a switch when it starts with a spelling; a long spelling
may be cut short as long as only one switch can be meant. An argument like a
negative number or with a space in it is still a value. After a first `--` all
arguments are values.

Then the arguments are taken from the left. The first value is the path of the
schema file. A switch that takes a value has it in the rest of its argument or
in the next one. What fits nowhere is refused at the end, unless a switch has
stopped the reading before.

Key definitions: `Refusal`, `Reading`, `Options`, `Arguments.read`,
`Arguments.bundle`, `Arguments.take`, `Arguments.parse`.
-/

namespace Courier

/-- Why arguments are refused. -/
inductive Refusal where
  /-- A spelling that is cut short can mean several. -/
  | ambiguous (argument : Text) (meanings : List Text)
  /-- A switch that takes no value has one. -/
  | surplusValue (s : Switch) (value : Text)
  /-- A switch that takes a value has none. -/
  | missingValue (s : Switch)
  /-- The value of a switch is to be a number and is none. -/
  | notANumber (s : Switch) (value : Text)
  /-- Some arguments fit nowhere. -/
  | leftOver (arguments : List Text)
  deriving DecidableEq, Repr

namespace Refusal

/-- The text about one switch. -/
def aboutSwitch (s : Switch) (text : Text) : Text :=
  "argument ".toList ++ s.names ++ ": ".toList ++ text

/-- The refusal in words. -/
def message : Refusal → Text
  | .ambiguous argument meanings =>
    "ambiguous option: ".toList ++ argument ++ " could match ".toList ++
      ", ".toList.intercalate meanings
  | .surplusValue s value =>
    aboutSwitch s ("ignored explicit argument ".toList ++ Text.quoted value)
  | .missingValue s => aboutSwitch s "expected one argument".toList
  | .notANumber s value => aboutSwitch s ("invalid float value: ".toList ++ Text.quoted value)
  | .leftOver arguments => "unrecognized arguments: ".toList ++ [' '].intercalate arguments

end Refusal

/-- Why the reading of arguments ends early. -/
inductive Stop where
  | help
  | version
  | refused (r : Refusal)
  deriving DecidableEq, Repr

/-- An argument, looked at alone. -/
inductive Reading where
  | value
  /-- Whatever follows is a value. -/
  | divider
  /-- It spells a switch, and this is attached to the spelling. -/
  | switch (s : Switch) (short : Bool) (attached : Option Text)
  /-- It looks like a switch and is none. -/
  | unknown
  deriving DecidableEq, Repr

/-- What the arguments of a command say. -/
structure Options where
  schema : Option Path
  project : Text
  overrides : Option Path
  outputFolder : Option Path
  address : Option Text
  timeout : Option Float
  envFile : Option Path
  debug : Bool
  silent : Bool
  logLevel : Option Text
  deriving Repr

namespace Options

/-- What no arguments say. -/
def none : Options := ⟨.none, [], .none, .none, .none, .none, .none, false, false, .none⟩

/-- The argument after which all are values. -/
def divider : Text := "--".toList

/-- The options with one more switch, whose value is left empty if it takes none. -/
def apply (o : Options) (s : Switch) (value : Text) : Except Stop Options :=
  match s with
  | .help => .error .help
  | .version => .error .version
  | .project => .ok { o with project := value }
  | .overrides => .ok { o with overrides := some (.ofText value) }
  | .outputFolder => .ok { o with outputFolder := some (.ofText value) }
  | .address => .ok { o with address := some value }
  | .timeout =>
    match Decimal.readFloat? value with
    | some x => .ok { o with timeout := some x }
    | .none => .error (.refused (.notANumber s value))
  | .envFile => .ok { o with envFile := some (.ofText value) }
  | .debug => .ok { o with debug := true }
  | .silent => .ok { o with silent := true }
  | .logLevel => .ok { o with logLevel := some value }

/-- The options with several switches, one after another. -/
def applyAll : List (Switch × Text) → Options → Except Stop Options
  | [], o => .ok o
  | (s, value) :: rest, o =>
    match o.apply s value with
    | .error stop => .error stop
    | .ok o => applyAll rest o

end Options

namespace Arguments

/-- One decimal digit or more, and nothing else. -/
def areDigits (t : Text) : Bool := t != [] && t.all fun c => (Decimal.digit? c).isSome

/-- Is the text a dash and a number without an exponent? A line feed may end it. -/
def isNegativeNumber : Text → Bool
  | '-' :: t =>
    let t := if t.getLast? = some '\n' then t.dropLast else t
    areDigits t ||
      match t.dropWhile fun c => (Decimal.digit? c).isSome with
      | '.' :: fraction => areDigits fraction
      | _ => false
  | _ => false

/-- The text before the first equals sign, and the text after it, if there is one. -/
def atEquals (t : Text) : Text × Option Text :=
  match Text.cut '=' t with
  | some (head, value) => (head, some value)
  | none => (t, none)

/-- The spellings that an argument may stand for, with what they are read as. A long
spelling may be cut short, and a value may follow a short one at once. -/
def meanings (t : Text) : List (Text × Reading) :=
  if Text.startsWith t Options.divider then
    let (head, value) := atEquals t
    (Switch.table.filter fun row => Text.startsWith row.1 head).map fun row =>
      (row.1, .switch row.2 (Switch.isShort row.1) value)
  else
    (Switch.table.filter fun row => row.1 == t.take 2).map fun row =>
      (row.1, .switch row.2 (Switch.isShort row.1) (some (t.drop 2)))

/-- Reads an argument alone. -/
def read (t : Text) : Except Refusal Reading :=
  match t with
  | '-' :: _ :: _ =>
    let (head, value) := atEquals t
    match Switch.spelled? head with
    | some s => .ok (.switch s (Switch.isShort head) value)
    | none =>
      match meanings t with
      | [(_, reading)] => .ok reading
      | [] => .ok (if isNegativeNumber t || t.contains ' ' then .value else .unknown)
      | several => .error (.ambiguous t (several.map Prod.fst))
  | _ => .ok .value

/-- Reads each argument alone. -/
def readAll : List Text → Except Refusal (List (Text × Reading))
  | [] => .ok []
  | t :: rest =>
    if t = Options.divider then .ok ((t, .divider) :: rest.map (·, .value))
    else
      match read t with
      | .error r => .error r
      | .ok reading => (readAll rest).map ((t, reading) :: ·)

/-- The switches in one argument. -/
structure Bundle where
  /-- Switches that are complete, with their values. -/
  complete : List (Switch × Text)
  /-- A switch whose value is the next argument. -/
  awaiting : Option Switch
  deriving DecidableEq, Repr

/-- A switch with nothing attached to it. -/
def bare (s : Switch) : Bundle := if s.takesValue then ⟨[], some s⟩ else ⟨[(s, [])], none⟩

/-- A switch with a text attached to it: its value, or, after a short switch that takes
none, letters that spell more short switches. -/
def bundleWith (s : Switch) (short : Bool) : Text → Except Refusal Bundle
  | [] => if s.takesValue then .ok ⟨[(s, [])], none⟩ else .error (.surplusValue s [])
  | c :: cs =>
    if s.takesValue then .ok ⟨[(s, c :: cs)], none⟩
    else
      match if short then Switch.spelled? ['-', c] else none with
      | none => .error (.surplusValue s (c :: cs))
      | some next =>
        (if cs = [] then .ok (bare next) else bundleWith next true cs).map fun b =>
          { b with complete := (s, []) :: b.complete }

/-- The switches in an argument that spells one, with what is attached to it. -/
def bundle (s : Switch) (short : Bool) : Option Text → Except Refusal Bundle
  | none => .ok (bare s)
  | some attached => bundleWith s short attached

/-- Takes arguments from the left; some may already be left over. -/
def take (o : Options) (left : List Text) : List (Text × Reading) → Except Stop Options
  | [] => if left = [] then .ok o else .error (.refused (.leftOver left))
  | (t, .value) :: rest =>
    if o.schema.isSome then take o (left ++ [t]) rest
    else
      match rest with
      -- a divider right after the schema file is no argument
      | (_, .divider) :: rest => take { o with schema := some (.ofText t) } left rest
      | rest => take { o with schema := some (.ofText t) } left rest
  | (t, .divider) :: rest => take o (if o.schema.isSome then left ++ [t] else left) rest
  | (t, .unknown) :: rest => take o (left ++ [t]) rest
  | (_, .switch s short attached) :: rest =>
    match bundle s short attached with
    | .error r => .error (.refused r)
    | .ok ⟨complete, none⟩ =>
      match o.applyAll complete with
      | .error stop => .error stop
      | .ok o => take o left rest
    | .ok ⟨complete, some s⟩ =>
      match rest with
      | (value, .value) :: rest =>
        match o.applyAll (complete ++ [(s, value)]) with
        | .error stop => .error stop
        | .ok o => take o left rest
      | _ => .error (.refused (.missingValue s))

/-- What the arguments of a command say, or why their reading ends early. -/
def parse (arguments : List Text) : Except Stop Options :=
  match readAll arguments with
  | .error r => .error (.refused r)
  | .ok readings => take .none [] readings

end Arguments
end Courier
