import Courier.Proofs.Status.Watch
import Mathlib.Data.List.Nodup

/-!
# What was done with a board tells what it is

The listeners of a board are those that were subscribed and not unsubscribed since,
none of them twice and in the order in which they came; its text is that of the
update that began last; and its journal holds what was told, in order. All of this
can be read from the deeds alone, and every deed keeps it.

Key definitions: `standing`, `Agrees`.
Key theorems: `standing_on`, `standing_off`, `Agrees.step`.
-/

namespace Courier

/-- The listeners that were subscribed and not unsubscribed since, in the order in which their
subscriptions began. -/
def standing : List Deed → List Text
  | .on listener :: later =>
    if .off listener ∈ later then standing later
    else listener :: (standing later).filter (· ≠ listener)
  | _ :: later => standing later
  | [] => []

/-- The text of an update that begins. -/
def Deed.text? : Deed → Option Text
  | .began _ text => some text
  | _ => none

/-- The listener that is told, and the text. -/
def Deed.telling? : Deed → Option (Text × Text)
  | .told _ listener text => some (listener, text)
  | _ => none

theorem standing_nodup (deeds : List Deed) : (standing deeds).Nodup := by
  induction deeds with
  | nil => exact List.nodup_nil
  | cons deed later ih =>
    cases deed with
    | on listener =>
      rw [standing]
      split
      · exact ih
      · have hout : listener ∉ (standing later).filter (· ≠ listener) := by simp
        exact List.nodup_cons.mpr ⟨hout, ih.filter _⟩
    | off | began | told | ended => exact ih

/-- A subscription puts a listener last, unless it stands already. -/
theorem standing_on (deeds : List Deed) (listener : Text) :
    standing (deeds ++ [.on listener]) =
      if listener ∈ standing deeds then standing deeds else standing deeds ++ [listener] := by
  induction deeds with
  | nil => rfl
  | cons deed later ih =>
    cases deed with
    | off | began | told | ended => exact ih
    | on first =>
      have hoff : (.off first ∈ later ++ [.on listener]) = (.off first ∈ later) := by simp
      rw [List.cons_append, standing, standing, ih]
      simp only [hoff]
      by_cases hgone : .off first ∈ later
      · rw [if_pos hgone, if_pos hgone]
      · rw [if_neg hgone, if_neg hgone]
        by_cases hsame : listener = first
        · subst hsame
          rw [if_pos List.mem_cons_self]
          split
          · rfl
          · simp
        · have hmem : listener ∈ first :: (standing later).filter (· ≠ first) ↔
              listener ∈ standing later := by simp [hsame]
          simp only [hmem]
          split
          · rfl
          · simp [hsame]

/-- When a listener is unsubscribed, only that listener is gone. -/
theorem standing_off (deeds : List Deed) (listener : Text) :
    standing (deeds ++ [.off listener]) = (standing deeds).filter (· ≠ listener) := by
  induction deeds with
  | nil => rfl
  | cons deed later ih =>
    cases deed with
    | off | began | told | ended => exact ih
    | on first =>
      have hoff : .off first ∈ later ++ [.off listener] ↔ .off first ∈ later ∨ first = listener := by
        simp
      rw [List.cons_append, standing, standing, ih]
      simp only [hoff]
      by_cases hgone : .off first ∈ later
      · rw [if_pos (Or.inl hgone), if_pos hgone]
      · rw [if_neg hgone]
        by_cases hsame : first = listener
        · subst hsame
          rw [if_pos (Or.inr rfl), List.filter_cons_of_neg (by simp), List.filter_filter]
          simp
        · rw [if_neg (by simp [hgone, hsame]), List.filter_cons_of_pos (by simpa using hsame)]
          congr 1
          rw [List.filter_filter, List.filter_filter]
          exact List.filter_congr fun _ _ => Bool.and_comm _ _

/-- What is no subscription changes none. -/
theorem standing_numbered (deeds : List Deed) (deed : Deed) {n : ℕ} (hn : deed.number? = some n) :
    standing (deeds ++ [deed]) = standing deeds := by
  induction deeds with
  | nil =>
    cases deed with
    | on | off => exact absurd hn (by simp [Deed.number?])
    | began | told | ended => rfl
  | cons first later ih =>
    cases first with
    | off | began | told | ended => exact ih
    | on listener =>
      have hoff : (.off listener ∈ later ++ [deed]) = (.off listener ∈ later) := by
        have hne : .off listener ≠ deed := by
          rintro rfl
          exact absurd hn (by simp [Deed.number?])
        simp [hne]
      rw [List.cons_append, standing, standing, ih]
      simp only [hoff]

/-- A board agrees with what was done with it: its listeners are those who stand, none twice,
its text is that of the update that began last, and all tellings are in its journal. -/
structure Agrees (deeds : List Deed) (b : Board) : Prop where
  listeners : b.listeners = standing deeds
  once : b.listeners.Nodup
  message : b.message = (deeds.filterMap Deed.text?).getLast?
  tellings : b.journal.tellings = deeds.filterMap Deed.telling?

namespace Agrees

variable {deeds : List Deed} {b : Board}

theorem empty : Agrees [] Board.empty where
  listeners := rfl
  once := List.nodup_nil
  message := rfl
  tellings := rfl

/-- A board agrees with one deed more if its listeners do and the deed left its text and its
telling, where it has any. -/
theorem step {b' : Board} {deed : Deed} (h : Agrees deeds b)
    (hlisteners : b'.listeners = standing (deeds ++ [deed]))
    (hmessage : b'.message = deed.text?.or b.message)
    (htellings : b'.journal.tellings = b.journal.tellings ++ deed.telling?.toList) :
    Agrees (deeds ++ [deed]) b' where
  listeners := hlisteners
  once := hlisteners ▸ standing_nodup _
  message := by
    rw [hmessage, h.message, List.filterMap_append]
    cases htext : deed.text? <;> simp [htext]
  tellings := by
    rw [htellings, h.tellings, List.filterMap_append]
    cases htelling : deed.telling? <;> simp [htelling]

theorem on (h : Agrees deeds b) (listener : Text) :
    Agrees (deeds ++ [.on listener]) (b.subscribe listener) := by
  have hlisteners : (b.subscribe listener).listeners = standing (deeds ++ [.on listener]) := by
    rw [standing_on, ← h.listeners, Board.subscribe]
    by_cases hmem : listener ∈ b.listeners
    · rw [if_pos (List.contains_iff_mem.mpr hmem), if_pos hmem]
    · rw [if_neg (by simpa using hmem), if_neg hmem]
  have hrest : (b.subscribe listener).message = b.message ∧
      (b.subscribe listener).journal = b.journal := by
    rw [Board.subscribe]
    split <;> exact ⟨rfl, rfl⟩
  apply h.step hlisteners
  · exact hrest.1
  · rw [hrest.2]
    exact (List.append_nil _).symm

theorem off (h : Agrees deeds b) (listener : Text) :
    Agrees (deeds ++ [.off listener]) (b.unsubscribe listener) := by
  have hlisteners : (b.unsubscribe listener).listeners = standing (deeds ++ [.off listener]) := by
    rw [standing_off, ← h.listeners, Board.unsubscribe, h.once.erase_eq_filter]
    exact List.filter_congr fun x _ => by simp [bne, beq_eq_decide]
  exact h.step hlisteners rfl (List.append_nil _).symm

theorem began (h : Agrees deeds b) (n : ℕ) (text : Text) :
    Agrees (deeds ++ [.began n text]) (b.put text) := by
  have hlisteners := h.listeners.trans (standing_numbered deeds (.began n text) rfl).symm
  refine h.step hlisteners rfl ?_
  simp [Board.put, Board.statusRecord, Journal.tellings, Deed.telling?]

theorem told (h : Agrees deeds b) (n : ℕ) (listener text : Text) :
    Agrees (deeds ++ [.told n listener text]) (b.happened (.told listener text)) := by
  have hlisteners := h.listeners.trans (standing_numbered deeds (.told n listener text) rfl).symm
  refine h.step hlisteners rfl ?_
  simp [Board.happened, Journal.tellings, Deed.telling?]

theorem ended (h : Agrees deeds b) (n : ℕ) : Agrees (deeds ++ [.ended n]) b := by
  have hlisteners := h.listeners.trans (standing_numbered deeds (.ended n) rfl).symm
  exact h.step hlisteners rfl (List.append_nil _).symm

/-- That a listener failed is in the journal, and nowhere else. -/
theorem failure (h : Agrees deeds b) (words : Text) :
    Agrees deeds (b.happened (Board.failureRecord words)) where
  listeners := h.listeners
  once := h.once
  message := h.message
  tellings := by
    rw [← h.tellings]
    simp [Board.happened, Board.failureRecord, Journal.tellings]

end Agrees

end Courier
