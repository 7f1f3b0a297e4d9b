import Courier.Http.Message

/-!
# The journal of what happens

While forms are on their way, things happen in one order: records are logged,
status texts are shown, listeners are told of them and requests are sent. The
journal holds all of them as they come, and each view of it picks one kind.

Key definitions: `Level`, `Event`, `Journal.records`, `Journal.statuses`, `Journal.requests`.
-/

namespace Courier

/-- How grave a record is. -/
inductive Level where
  | debug
  | info
  | warning
  | error
  | critical
  deriving DecidableEq, Repr

namespace Level

/-- The levels from the least grave on. -/
def all : List Level := [.debug, .info, .warning, .error, .critical]

/-- The rank of a level. -/
def number : Level → Nat
  | .debug => 10
  | .info => 20
  | .warning => 30
  | .error => 40
  | .critical => 50

/-- The name of a level. -/
def name : Level → Text
  | .debug => "DEBUG".toList
  | .info => "INFO".toList
  | .warning => "WARNING".toList
  | .error => "ERROR".toList
  | .critical => "CRITICAL".toList

end Level

/-- Something that happens. -/
inductive Event where
  /-- A record is logged. -/
  | record (level : Level) (text : Text)
  /-- A status text is shown to the user. -/
  | status (text : Text)
  /-- A listener is told of a status text. -/
  | told (listener text : Text)
  /-- A request is sent. -/
  | request (request : Request)
  deriving DecidableEq, Repr

/-- What has happened, in order. -/
abbrev Journal := List Event

namespace Journal

/-- The records that were logged. -/
def records (j : Journal) : List (Level × Text) :=
  j.filterMap fun
    | .record level text => some (level, text)
    | _ => none

/-- The status texts that were shown. -/
def statuses (j : Journal) : List Text :=
  j.filterMap fun
    | .status text => some text
    | _ => none

/-- What listeners were told. -/
def tellings (j : Journal) : List (Text × Text) :=
  j.filterMap fun
    | .told listener text => some (listener, text)
    | _ => none

/-- The requests that were sent. -/
def requests (j : Journal) : List Request :=
  j.filterMap fun
    | .request r => some r
    | _ => none

end Journal
end Courier
