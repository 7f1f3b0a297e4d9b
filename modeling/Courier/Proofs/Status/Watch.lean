import Courier.Status.Board
import Mathlib.Data.Nat.Notation

/-!
# A board under watch

To speak of what is done with a board while its listeners are being told, the
board is watched: every call that is made on it and every telling is noted in
order, with the board as it is right after, and the updates are numbered as they
begin, so that a telling shows to which of them it belongs. Watching changes
nothing.

Key definitions: `Deed`, `Moment`, `Watch`, `Watch.act`, `Watch.tell`, `Watch.update`.
Key theorems: `Watch.act_board`, `Watch.tell_board`, `Watch.update_board`.
-/

namespace Courier

/-- Something that is done with a board. -/
inductive Deed where
  /-- A listener is to be subscribed. -/
  | on (listener : Text)
  /-- A listener is to be unsubscribed. -/
  | off (listener : Text)
  /-- An update begins. -/
  | began (number : ℕ) (text : Text)
  /-- A listener is told of the text of an update. -/
  | told (number : ℕ) (listener text : Text)
  /-- An update has come to its end. -/
  | ended (number : ℕ)
  deriving DecidableEq, Repr

/-- The update to which a deed belongs. -/
def Deed.number? : Deed → Option ℕ
  | .on _ | .off _ => none
  | .began n _ | .told n .. | .ended n => some n

/-- A deed, and the board right after it. -/
structure Moment where
  deed : Deed
  board : Board

/-- A board under watch: how many updates have begun, and what was done so far. -/
structure Watch where
  board : Board
  begun : ℕ
  past : List Moment

namespace Watch

/-- A board on which nothing was done. -/
def start : Watch := ⟨Board.empty, 0, []⟩

/-- Notes a deed, which leaves the given board. -/
def note (w : Watch) (deed : Deed) (b : Board) : Watch := ⟨b, w.begun, w.past ++ [⟨deed, b⟩]⟩

/-- The watch when a listener is told. -/
def telling (w : Watch) (n : ℕ) (listener text : Text) : Watch :=
  w.note (.told n listener text) (w.board.happened (.told listener text))

/-- The watch when a listener has failed with some words. -/
def failing (w : Watch) (words : Text) : Watch :=
  { w with board := w.board.happened (Board.failureRecord words) }

/-- The watch when an update begins. -/
def beginning (w : Watch) (text : Text) : Watch :=
  { w with begun := w.begun + 1 }.note (.began w.begun text) (w.board.put text)

/-- The outcome of a step on a board under watch. -/
abbrev Outcome := Option (Except Fault Unit × Watch)

/-- Lets a listener act, as `Board.act` does. -/
def act (update : Text → Watch → Outcome) : Conduct → Watch → Outcome
  | .done, w => some (.ok (), w)
  | .fail f, w => some (.error f, w)
  | .subscribe listener rest, w =>
    act update rest (w.note (.on listener) (w.board.subscribe listener))
  | .unsubscribe listener rest, w =>
    act update rest (w.note (.off listener) (w.board.unsubscribe listener))
  | .update text rest, w =>
    match update text w with
    | some (.ok (), w) => act update rest w
    | stopped => stopped
  | .look rest, w => act update (rest w.board.message) w
  | .remember rest, w => act update (rest w.board.journal) w

/-- Tells the listeners of the text of an update, as `Board.tell` does. -/
def tell (conduct : Text → Text → Conduct) (update : Text → Watch → Outcome) (n : ℕ) (text : Text) :
    List Text → Watch → Outcome
  | [], w => some (.ok (), w)
  | listener :: rest, w =>
    match act update (conduct listener text) (w.telling n listener text) with
    | none => none
    | some (.ok (), w) => tell conduct update n text rest w
    | some (.error f, w) =>
      if f.isInterrupt then some (.error f, w)
      else
        match f.words with
        | .error why => some (.error why, w)
        | .ok words => tell conduct update n text rest (w.failing words)

/-- Puts a text on a board under watch, as `Board.update` does. -/
def update (conduct : Text → Text → Conduct) : (depth : ℕ) → Text → Watch → Outcome
  | 0, _, _ => none
  | depth + 1, text, w =>
    match tell conduct (update conduct depth) w.begun text w.board.listeners (w.beginning text) with
    | some (.ok (), w') => some (.ok (), w'.note (.ended w.begun) w'.board)
    | stopped => stopped

/-! ### Watching changes nothing -/

/-- An outcome without what was noted. -/
def unwatched (x : Outcome) : Board.Outcome := x.map (Prod.map id board)

variable {conduct : Text → Text → Conduct} {update : Text → Watch → Outcome}
  {update' : Text → Board → Board.Outcome}

theorem act_board (hupdate : ∀ text w, unwatched (update text w) = update' text w.board)
    (c : Conduct) (w : Watch) : unwatched (act update c w) = Board.act update' c w.board := by
  induction c generalizing w with
  | done => rfl
  | fail f => rfl
  | subscribe listener rest ih => exact ih _
  | unsubscribe listener rest ih => exact ih _
  | look rest ih => exact ih w.board.message w
  | remember rest ih => exact ih w.board.journal w
  | update text rest ih =>
    rw [act, Board.act, ← hupdate]
    cases hrun : update text w with
    | none => rfl
    | some ended =>
      obtain ⟨out, w'⟩ := ended
      cases out with
      | error f => rfl
      | ok _ => exact ih w'

theorem tell_board (hupdate : ∀ text w, unwatched (update text w) = update' text w.board) (n : ℕ)
    (text : Text) (listeners : List Text) (w : Watch) :
    unwatched (tell conduct update n text listeners w) =
      Board.tell conduct update' text listeners w.board := by
  induction listeners generalizing w with
  | nil => rfl
  | cons listener rest ih =>
    have hact := act_board hupdate (conduct listener text) (w.telling n listener text)
    rw [tell, Board.tell]
    change _ = Board.act update' (conduct listener text)
      (w.board.happened (.told listener text)) at hact
    rw [← hact]
    cases hrun : act update (conduct listener text) (w.telling n listener text) with
    | none => rfl
    | some ended =>
      obtain ⟨out, w'⟩ := ended
      cases out with
      | ok _ => exact ih w'
      | error f =>
        simp only [unwatched, Option.map_some, Prod.map, id]
        split
        · rfl
        · cases f.words with
          | error why => rfl
          | ok words => exact ih (w'.failing words)

/-- **Watching changes nothing.** The induction is on the depth of updates inside updates. -/
theorem update_board (conduct : Text → Text → Conduct) (depth : ℕ) (text : Text) (w : Watch) :
    unwatched (Watch.update conduct depth text w) = Board.update conduct depth text w.board := by
  induction depth generalizing text w with
  | zero => rfl
  | succ depth ih =>
    have htell := @tell_board conduct _ _ ih w.begun text w.board.listeners (w.beginning text)
    rw [Watch.update, Board.update]
    change _ = Board.tell conduct _ text w.board.listeners (w.board.put text) at htell
    rw [← htell]
    cases hrun : tell conduct (Watch.update conduct depth) w.begun text w.board.listeners
        (w.beginning text) with
    | none => rfl
    | some ended =>
      obtain ⟨out, w'⟩ := ended
      cases out <;> rfl

end Watch
end Courier
