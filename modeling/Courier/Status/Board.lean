import Courier.Journal
import Courier.Status

/-!
# The status board

A board keeps the latest status text and tells every change to the listeners
that subscribed to it. An update tells those that are subscribed when it
begins, each once and in the order in which they subscribed. What a listener
does meanwhile, to the board or by failing, keeps no other listener from being
told; only the user's interrupt ends an update, and a failure that cannot be put
into words.

Key definitions: `Board`, `Conduct`, `Board.subscribe`, `Board.unsubscribe`, `Board.update`.
-/

namespace Courier

/-- The board: the latest text, the listeners in the order in which they
subscribed, and what has happened. -/
structure Board where
  message : Option Text
  listeners : List Text
  journal : Journal
  deriving Repr

/-- What a listener does when it is told of a text. -/
inductive Conduct where
  /-- Nothing more. -/
  | done
  /-- It fails. -/
  | fail (fault : Fault)
  /-- It subscribes a listener. -/
  | subscribe (listener : Text) (rest : Conduct)
  /-- It unsubscribes a listener. -/
  | unsubscribe (listener : Text) (rest : Conduct)
  /-- It puts a text on the board. -/
  | update (text : Text) (rest : Conduct)
  /-- It looks at the text on the board. -/
  | look (rest : Option Text → Conduct)
  /-- It remembers what has happened, and goes by that. -/
  | remember (rest : Journal → Conduct)

namespace Board

/-- A board on which nothing has been put. -/
def empty : Board := ⟨none, [], []⟩

/-- The board with a listener more, unless it is subscribed already. -/
def subscribe (b : Board) (listener : Text) : Board :=
  if b.listeners.contains listener then b else { b with listeners := b.listeners ++ [listener] }

/-- The board without a listener. -/
def unsubscribe (b : Board) (listener : Text) : Board :=
  { b with listeners := b.listeners.erase listener }

/-- The board with one more thing that happened. -/
def happened (b : Board) (e : Event) : Board := { b with journal := b.journal ++ [e] }

/-- The record of a text that is put on a board. -/
def statusRecord (text : Text) : Event := .record .debug ("status: ".toList ++ text)

/-- The record of a listener that failed with some words. -/
def failureRecord (words : Text) : Event :=
  .record .error ("Error in status listener: ".toList ++ words)

/-- The board with a text put on it, before anyone is told. -/
def put (b : Board) (text : Text) : Board :=
  { b with message := some text, journal := b.journal ++ [statusRecord text] }

/-- The outcome of a step on the board, if the step comes to an end within the
depth of updates inside updates that it is given. -/
abbrev Outcome := Option (Except Fault Unit × Board)

/-- Lets a listener act. The updates that it makes are run by `update`. -/
def act (update : Text → Board → Outcome) : Conduct → Board → Outcome
  | .done, b => some (.ok (), b)
  | .fail f, b => some (.error f, b)
  | .subscribe listener rest, b => act update rest (b.subscribe listener)
  | .unsubscribe listener rest, b => act update rest (b.unsubscribe listener)
  | .update text rest, b =>
    match update text b with
    | some (.ok (), b) => act update rest b
    | stopped => stopped
  | .look rest, b => act update (rest b.message) b
  | .remember rest, b => act update (rest b.journal) b

/-- Tells the listeners of a text, one after another. -/
def tell (conduct : Text → Text → Conduct) (update : Text → Board → Outcome) (text : Text) :
    List Text → Board → Outcome
  | [], b => some (.ok (), b)
  | listener :: rest, b =>
    match act update (conduct listener text) (b.happened (.told listener text)) with
    | none => none
    | some (.ok (), b) => tell conduct update text rest b
    | some (.error f, b) =>
      if f.isInterrupt then some (.error f, b)
      else
        match f.words with
        | .error why => some (.error why, b)
        | .ok words => tell conduct update text rest (b.happened (failureRecord words))

/-- Puts a text on the board and tells the listeners, whose conduct is given by
their names and the text. Updates inside updates go down to the given depth. -/
def update (conduct : Text → Text → Conduct) : (depth : Nat) → Text → Board → Outcome
  | 0, _, _ => none
  | depth + 1, text, b =>
    tell conduct (update conduct depth) text b.listeners (b.put text)

end Board
end Courier
