import Courier.Console.Summary
import Courier.Proofs.Fault

/-!
# What can be wrong with markup

Drawing a text with markup, or the summary panel with many of them, fails only for
a tag that closes nothing, for an action that is written badly, or for a colour that
is left incomplete.

Key definition: `Fault.isMarkup`.
Key theorems: `Markup.drawn_eq_error`, `Summary.render_eq_error`.
-/

namespace Courier

/-- The kinds of faults that markup can have. -/
def Fault.isMarkup : Fault → Bool
  | .nothingToClose _ | .unopenedTag .. | .unreadableAction .. | .worthlessAction .. | .colour _ => true
  | _ => false

variable {f : Fault}

namespace Markup

theorem checkAction_eq_error {action : Text} (h : checkAction action = .error f) :
    f.isMarkup = true := by
  unfold checkAction at h
  dsimp only at h
  split at h
  · exact Except.error.inj h ▸ rfl
  · split at h
    · exact Except.error.inj h ▸ rfl
    · exact absurd h (by simp)

theorem close_eq_error {tag : Tag} (h : close tag = .error f) : f.isMarkup = true := by
  unfold close at h
  split at h
  · exact checkAction_eq_error h
  · exact absurd h (by simp)

theorem meaning_eq_error {name : Text} (h : meaning name = .error f) : f.isMarkup = true := by
  obtain ⟨g, rfl⟩ := mapError_eq_error h
  rfl

theorem step_eq_error {place : Nat} {body : Text} {opened : List Tag}
    (h : step place body opened = .error f) : f.isMarkup = true := by
  unfold step at h
  split at h
  · split at h
    · split at h
      · exact Except.error.inj h ▸ rfl
      · rcases bind_eq_error h with hclose | ⟨_, -, h⟩
        · exact close_eq_error hclose
        · exact absurd h (by simp [pure, Except.pure])
    · rcases bind_eq_error h with hname | ⟨name, -, h⟩
      · exact meaning_eq_error hname
      · split at h
        · exact Except.error.inj h ▸ rfl
        · rcases bind_eq_error h with hclose | ⟨_, -, h⟩
          · exact close_eq_error hclose
          · exact absurd h (by simp [pure, Except.pure])
  · rcases bind_eq_error h with hname | ⟨name, -, h⟩
    · exact meaning_eq_error hname
    · exact absurd h (by simp [pure, Except.pure])

theorem drawnFrom_eq_error : ∀ {ps : List Piece} {tags : Nat} {opened : List Tag},
    drawnFrom tags opened ps = .error f → f.isMarkup = true
  | [], _, _, h => absurd h (by simp [drawnFrom])
  | .plain _ :: _, _, _, h | .escaped _ :: _, _, _, h => drawnFrom_eq_error (map_eq_error h)
  | .tag _ _ :: _, _, _, h =>
    (bind_eq_error h).elim step_eq_error fun ⟨_, _, hrest⟩ => drawnFrom_eq_error hrest

/-- **A text with markup is drawn unless its markup is at fault.** -/
theorem drawn_eq_error {t : Text} (h : drawn t = .error f) : f.isMarkup = true := by
  unfold drawn at h
  split at h
  · exact drawnFrom_eq_error h
  · exact absurd h (by simp)

end Markup

/-- **The summary panel is drawn unless the markup of a name or a value is at fault,** or its
lines are longer than a line can be. -/
theorem Summary.render_eq_error {width : Nat} {items : Table Summary.Value}
    (h : render width items = .error f) : f.isMarkup = true ∨ f = .tooWide := by
  unfold render at h
  split at h
  · exact absurd h (by simp)
  · split at h
    · exact absurd h (by simp)
    · rcases bind_eq_error h with hnames | ⟨_, -, h⟩
      · unfold names at hnames
        split at hnames
        · exact absurd hnames (by simp)
        · obtain ⟨item, -, hitem⟩ := mapM_eq_error hnames
          exact .inl (Markup.drawn_eq_error hitem)
      · rcases bind_eq_error h with hvalues | ⟨_, -, h⟩
        · obtain ⟨item, -, hitem⟩ := mapM_eq_error hvalues
          exact .inl (Markup.drawn_eq_error hitem)
        · split at h
          · exact .inr (Except.error.inj h).symm
          · exact absurd h (by simp)

end Courier
