import Courier.Proofs.Status.Agreement
import Mathlib.Data.Nat.Basic
import Mathlib.Order.Basic

/-!
# What listeners hear

Whatever is done with a board, also by listeners while they are being told and by
updates inside updates, every update tells those who were subscribed when it began,
each once and in their order, with its own text, and ends without a fault. The
exceptions are the user's interrupt and failures that cannot be put into words,
which calm listeners do not raise. The words of a failure are asked for outside the
care that is taken of it, so one without words ends the update in which it occurs.

Key definitions: `Served`, `Watch.Sound`, `Watch.Advances`, `Conduct.Calm`.
Key theorems: `Watch.act_advances`, `Watch.tell_serves`, `Watch.update_advances`,
`Board.update_ok`, `Board.update_returns`, `Watch.listeners_miss_nothing`,
`Watch.wordless_failure_ends_update`.
-/

namespace Courier

/-! ### What is done in an update -/

/-- The deeds that belong to an update. -/
def ofUpdate (n : ℕ) (past : List Moment) : List Deed :=
  (past.map Moment.deed).filter (·.number? = some n)

@[simp] theorem ofUpdate_append (n : ℕ) (past later : List Moment) :
    ofUpdate n (past ++ later) = ofUpdate n past ++ ofUpdate n later := by
  simp [ofUpdate]

theorem ofUpdate_single (n : ℕ) (m : Moment) :
    ofUpdate n [m] = if m.deed.number? = some n then [m.deed] else [] := by
  by_cases h : m.deed.number? = some n <;> simp [ofUpdate, h]

/-- All that is done in an update: it begins, tells the listeners that are subscribed as it
begins, each once, in their order and of its own text, and ends. -/
def Served (n : ℕ) (past : List Moment) : Prop :=
  ∃ text start, ⟨.began n text, start⟩ ∈ past ∧
    ofUpdate n past = .began n text :: (start.listeners.map (.told n · text) ++ [.ended n])

namespace Watch

/-- What is noted agrees with the board, all along, and updates that are still to begin
have done nothing. -/
structure Sound (w : Watch) : Prop where
  agrees : Agrees (w.past.map Moment.deed) w.board
  throughout : ∀ earlier m later, w.past = earlier ++ m :: later →
    Agrees ((earlier ++ [m]).map Moment.deed) m.board
  fresh : ∀ n, w.begun ≤ n → ofUpdate n w.past = []

theorem start_sound : start.Sound where
  agrees := Agrees.empty
  throughout earlier m later h := by simp [start] at h
  fresh n _ := rfl

theorem note_past (w : Watch) (deed : Deed) (b : Board) :
    (w.note deed b).past = w.past ++ [⟨deed, b⟩] := rfl

/-- To note a deed keeps a watch sound if the board agrees. -/
theorem Sound.note {w : Watch} (h : w.Sound) {deed : Deed} {b : Board}
    (hagrees : Agrees (w.past.map Moment.deed ++ [deed]) b)
    (hbegun : ∀ n, deed.number? = some n → n < w.begun) : (w.note deed b).Sound where
  agrees := by
    rw [note_past, List.map_append]
    exact hagrees
  throughout earlier m later hpast := by
    rw [note_past] at hpast
    -- The moment is the new one, or one of those before it.
    rcases List.eq_nil_or_concat later with rfl | ⟨later, last, rfl⟩
    · obtain ⟨rfl, hm⟩ := List.append_inj' hpast rfl
      obtain rfl : (⟨deed, b⟩ : Moment) = m := by simpa using hm
      rw [List.map_append]
      exact hagrees
    · rw [List.concat_eq_append, ← List.cons_append, ← List.append_assoc] at hpast
      exact h.throughout earlier m later (List.append_inj' hpast rfl).1
  fresh n hn := by
    have hother : deed.number? ≠ some n := fun hnumber => absurd (hbegun n hnumber) (not_lt.mpr hn)
    rw [note_past, ofUpdate_append, h.fresh n hn, ofUpdate_single, if_neg hother]
    rfl

/-- A watch that goes on: nothing that was noted is lost, an update that had begun before does
its `own` deeds and nothing more, and every update that began meanwhile was served. -/
structure Advances (own : ℕ → List Deed) (w w' : Watch) : Prop where
  le : w.begun ≤ w'.begun
  past : w.past ⊆ w'.past
  earlier : ∀ n < w.begun, ofUpdate n w'.past = ofUpdate n w.past ++ own n
  served : ∀ n, w.begun ≤ n → n < w'.begun → Served n w'.past
  sound : w'.Sound

namespace Advances

variable {own own' : ℕ → List Deed} {w w' w'' : Watch}

theorem refl (h : w.Sound) : Advances (fun _ => []) w w where
  le := le_rfl
  past := List.Subset.refl _
  earlier _ _ := (List.append_nil _).symm
  served _ hle hlt := absurd hlt (not_lt.mpr hle)
  sound := h

/-- What an update does in one stretch and in the next, it does in the whole. -/
theorem trans (h : Advances own w w') (h' : Advances own' w' w'')
    (hnew : ∀ n, w.begun ≤ n → own' n = []) : Advances (fun n => own n ++ own' n) w w'' where
  le := h.le.trans h'.le
  past := List.Subset.trans h.past h'.past
  earlier n hn := by
    rw [h'.earlier n (hn.trans_le h.le), h.earlier n hn, List.append_assoc]
  served n hle hlt := by
    by_cases hn : n < w'.begun
    · -- It was served before the second stretch, in which it does nothing.
      obtain ⟨text, start, hmem, hdeeds⟩ := h.served n hle hn
      refine ⟨text, start, h'.past hmem, ?_⟩
      rw [h'.earlier n hn, hnew n hle, List.append_nil, hdeeds]
    · exact h'.served n (not_lt.mp hn) hlt
  sound := h'.sound

theorem of_eq (h : Advances own w w') (heq : ∀ n, own n = own' n) : Advances own' w w' :=
  (funext heq : own = own') ▸ h

/-- Two stretches in which no earlier update does anything. -/
theorem whole (h : Advances (fun _ => []) w w') (h' : Advances (fun _ => []) w' w'') :
    Advances (fun _ => []) w w'' :=
  (h.trans h' fun _ _ => rfl).of_eq fun _ => rfl

end Advances

/-- The deeds of an update, as deeds of the updates there are. -/
def only (k : ℕ) (deeds : List Deed) (n : ℕ) : List Deed := if n = k then deeds else []

theorem only_append (k : ℕ) (deeds deeds' : List Deed) (n : ℕ) :
    only k deeds n ++ only k deeds' n = only k (deeds ++ deeds') n := by
  unfold only
  split <;> simp

theorem only_of_lt {k n : ℕ} (hn : k < n) (deeds : List Deed) : only k deeds n = [] :=
  if_neg (by omega)

variable {w w' : Watch}

/-- A deed that is noted belongs to its update, and to no other. -/
theorem Sound.advances_note (h : w.Sound) {deed : Deed} {b : Board}
    (hagrees : Agrees (w.past.map Moment.deed ++ [deed]) b)
    (hbegun : ∀ n, deed.number? = some n → n < w.begun) :
    Advances (fun n => if deed.number? = some n then [deed] else []) w (w.note deed b) where
  le := le_rfl
  past := List.subset_append_left _ _
  earlier n _ := by
    rw [note_past, ofUpdate_append, ofUpdate_single]
  served _ hle hlt := absurd hlt (not_lt.mpr hle)
  sound := h.note hagrees hbegun

/-- To subscribe or to unsubscribe belongs to no update. -/
theorem Sound.note_call (h : w.Sound) {deed : Deed} {b : Board} (hnone : deed.number? = none)
    (hagrees : Agrees (w.past.map Moment.deed ++ [deed]) b) :
    Advances (fun _ => []) w (w.note deed b) :=
  (h.advances_note hagrees fun _ hn => absurd hn (by simp [hnone])).of_eq
    fun _ => if_neg (by simp [hnone])

/-- What is done in an update that has begun belongs to that update. -/
theorem Sound.note_own (h : w.Sound) {deed : Deed} {b : Board} {k : ℕ}
    (hnumber : deed.number? = some k) (hk : k < w.begun)
    (hagrees : Agrees (w.past.map Moment.deed ++ [deed]) b) :
    Advances (only k [deed]) w (w.note deed b) := by
  have hsame : ∀ n, deed.number? = some n ↔ n = k := by
    intro n
    rw [hnumber, Option.some_inj]
    exact eq_comm
  refine (h.advances_note hagrees fun n hn => ?_).of_eq fun n => ?_
  · rw [(hsame n).mp hn]
    exact hk
  · rw [only]
    simp only [hsame]

/-- An update that begins, tells the listeners of its beginning and ends was served. -/
theorem Advances.serves {text : Text} (start : Board)
    (h : Advances (only w.begun (.began w.begun text ::
      (start.listeners.map (.told w.begun · text) ++ [.ended w.begun])))
      { w with begun := w.begun + 1 } w')
    (hfresh : ofUpdate w.begun w.past = [])
    (hmem : (⟨.began w.begun text, start⟩ : Moment) ∈ w'.past) :
    Advances (fun _ => []) w w' where
  le := Nat.le_of_succ_le h.le
  past := h.past
  earlier n hn := by
    rw [h.earlier n (Nat.lt_succ_of_lt hn), only, if_neg (by omega)]
  served n hle hlt := by
    rcases Nat.eq_or_lt_of_le hle with rfl | hlater
    · refine ⟨text, start, hmem, ?_⟩
      have hdeeds := h.earlier w.begun (Nat.lt_succ_self _)
      rw [hdeeds, hfresh, only, if_pos rfl, List.nil_append]
    · exact h.served n hlater hlt
  sound := h.sound

theorem Sound.failing (h : w.Sound) (words : Text) :
    Advances (fun _ => []) w (w.failing words) where
  le := le_rfl
  past := List.Subset.refl _
  earlier _ _ := (List.append_nil _).symm
  served _ hle hlt := absurd hlt (not_lt.mpr hle)
  sound := ⟨h.agrees.failure words, h.throughout, h.fresh⟩

end Watch

/-! ### An update ends without a fault -/

/-- The fault is no interrupt of the user, and it has words. -/
def Fault.Spoken (f : Fault) : Prop := f.isInterrupt = false ∧ ∃ words, f.words = .ok words

/-- Conduct that fails in an ordinary way, if it fails. -/
def Conduct.Calm : Conduct → Prop
  | .done => True
  | .fail f => f.Spoken
  | .subscribe _ rest | .unsubscribe _ rest | .update _ rest => rest.Calm
  | .look rest => ∀ message, (rest message).Calm
  | .remember rest => ∀ journal, (rest journal).Calm

namespace Board

variable {conduct : Text → Text → Conduct} {update : Text → Board → Outcome} {b b' : Board}

/-- A calm listener, whose updates end without a fault, fails in an ordinary way only. -/
theorem act_calm (hupdate : ∀ text b out b', update text b = some (out, b') → out = .ok ())
    {c : Conduct} (hcalm : c.Calm) {f : Fault} (hrun : act update c b = some (.error f, b')) :
    f.Spoken := by
  induction c generalizing b with
  | done => exact absurd hrun (by simp [act])
  | fail g =>
    obtain ⟨rfl, -⟩ : g = f ∧ b = b' := by simpa [act] using hrun
    exact hcalm
  | subscribe listener rest ih => exact ih hcalm hrun
  | unsubscribe listener rest ih => exact ih hcalm hrun
  | look rest ih => exact ih b.message (hcalm b.message) hrun
  | remember rest ih => exact ih b.journal (hcalm b.journal) hrun
  | update text rest ih =>
    rw [act] at hrun
    split at hrun
    · exact ih hcalm hrun
    · rename_i hstopped
      obtain ⟨u, hu⟩ : ∃ u, Except.error f = Except.ok u := ⟨(), hupdate text b _ b' hrun⟩
      exact absurd hu (by simp)

theorem tell_ok (hupdate : ∀ text b out b', update text b = some (out, b') → out = .ok ())
    (hcalm : ∀ listener text, (conduct listener text).Calm) {text : Text} {listeners : List Text}
    {out : Except Fault Unit} (hrun : tell conduct update text listeners b = some (out, b')) :
    out = .ok () := by
  induction listeners generalizing b with
  | nil =>
    obtain ⟨rfl, -⟩ : .ok () = out ∧ b = b' := by simpa [tell] using hrun
    rfl
  | cons listener rest ih =>
    rw [tell] at hrun
    split at hrun
    · exact absurd hrun (by simp)
    · exact ih hrun
    · rename_i f b₁ hact
      obtain ⟨hordinary, words, hwords⟩ := act_calm hupdate (hcalm listener text) hact
      rw [if_neg (by simp [hordinary]), hwords] at hrun
      exact ih hrun

/-- **An update ends without a fault,** whichever of the listeners fail. -/
theorem update_ok (hcalm : ∀ listener text, (conduct listener text).Calm) {depth : ℕ} {text : Text}
    {out : Except Fault Unit} (hrun : Board.update conduct depth text b = some (out, b')) :
    out = .ok () := by
  induction depth generalizing text b out b' with
  | zero => exact absurd hrun (by simp [Board.update])
  | succ depth ih => exact tell_ok (fun _ _ _ _ => ih) hcalm hrun

end Board

/-- Conduct that puts only such texts on the board. -/
def Conduct.Puts (p : Text → Prop) : Conduct → Prop
  | .done | .fail _ => True
  | .subscribe _ rest | .unsubscribe _ rest => rest.Puts p
  | .update text rest => p text ∧ rest.Puts p
  | .look rest => ∀ message, (rest message).Puts p
  | .remember rest => ∀ journal, (rest journal).Puts p

/-- Updates inside an update with the text go down to less than the depth. -/
def Nests (conduct : Text → Text → Conduct) : (depth : ℕ) → Text → Prop
  | 0, _ => False
  | depth + 1, text => ∀ listener, (conduct listener text).Puts (Nests conduct depth)

namespace Board

variable {conduct : Text → Text → Conduct} {update : Text → Board → Outcome}

theorem act_isSome {p : Text → Prop} (hupdate : ∀ text, p text → ∀ b, (update text b).isSome)
    {c : Conduct} (hputs : c.Puts p) (b : Board) : (act update c b).isSome := by
  induction c generalizing b with
  | done => rfl
  | fail f => rfl
  | subscribe listener rest ih => exact ih hputs _
  | unsubscribe listener rest ih => exact ih hputs _
  | look rest ih => exact ih b.message (hputs b.message) b
  | remember rest ih => exact ih b.journal (hputs b.journal) b
  | update text rest ih =>
    rw [act]
    split
    · exact ih hputs.2 _
    · exact hupdate text hputs.1 b

theorem tell_isSome {p : Text → Prop} (hupdate : ∀ text, p text → ∀ b, (update text b).isSome)
    {text : Text} (hputs : ∀ listener, (conduct listener text).Puts p) (listeners : List Text)
    (b : Board) : (tell conduct update text listeners b).isSome := by
  induction listeners generalizing b with
  | nil => rfl
  | cons listener rest ih =>
    have hact := act_isSome hupdate (hputs listener) (b.happened (.told listener text))
    rw [tell]
    split
    · rename_i hnone
      exact absurd hact (by simp [hnone])
    · exact ih _
    · split
      · rfl
      · split
        · rfl
        · exact ih _

/-- **An update returns,** without a fault, where the updates inside it have a finite depth. -/
theorem update_returns (hcalm : ∀ listener text, (conduct listener text).Calm) {depth : ℕ}
    {text : Text} (hnests : Nests conduct depth text) (b : Board) :
    ∃ b', Board.update conduct depth text b = some (.ok (), b') := by
  have hsome : ∀ depth text, Nests conduct depth text → ∀ b,
      (Board.update conduct depth text b).isSome := by
    intro depth
    induction depth with
    | zero => exact fun _ h => h.elim
    | succ depth ih => exact fun _ h b => tell_isSome ih h _ _
  obtain ⟨⟨out, b'⟩, hrun⟩ := Option.isSome_iff_exists.mp (hsome depth text hnests b)
  obtain rfl := update_ok hcalm hrun
  exact ⟨b', hrun⟩

end Board

namespace Watch

variable {conduct : Text → Text → Conduct} {update : Text → Watch → Outcome} {w w' : Watch}
  {out : Except Fault Unit}

/-- Updates that are served, and with them all that begin meanwhile. -/
def Serves (update : Text → Watch → Outcome) : Prop :=
  ∀ text w out w', w.Sound → update text w = some (out, w') → Advances (fun _ => []) w w'

/-! ### One step, and a whole run -/

/-- Whatever a listener does, the updates that had begun before do nothing meanwhile. -/
theorem act_advances (hserves : Serves update) {c : Conduct} (h : w.Sound)
    (hrun : act update c w = some (out, w')) : Advances (fun _ => []) w w' := by
  induction c generalizing w with
  | done =>
    obtain ⟨-, rfl⟩ : .ok () = out ∧ w = w' := by simpa [act] using hrun
    exact Advances.refl h
  | fail f =>
    obtain ⟨-, rfl⟩ : .error f = out ∧ w = w' := by simpa [act] using hrun
    exact Advances.refl h
  | subscribe listener rest ih =>
    have hstep := h.note_call rfl (h.agrees.on listener)
    exact hstep.whole (ih hstep.sound hrun)
  | unsubscribe listener rest ih =>
    have hstep := h.note_call rfl (h.agrees.off listener)
    exact hstep.whole (ih hstep.sound hrun)
  | look rest ih => exact ih w.board.message h hrun
  | remember rest ih => exact ih w.board.journal h hrun
  | update text rest ih =>
    rw [act] at hrun
    split at hrun
    · rename_i w₁ hupdate
      have hstep := hserves text w (.ok ()) w₁ h hupdate
      exact hstep.whole (ih hstep.sound hrun)
    · exact hserves text w out w' h hrun

/-- A calm listener that acts under watch fails in an ordinary way only. -/
theorem act_calm (hcalm : ∀ listener text, (conduct listener text).Calm) {depth : ℕ} {c : Conduct}
    (hc : c.Calm) {f : Fault} (hrun : act (Watch.update conduct depth) c w = some (.error f, w')) :
    f.Spoken := by
  have hboard := act_board (update_board conduct depth) c w
  rw [hrun] at hboard
  exact Board.act_calm (fun _ _ _ _ => Board.update_ok hcalm) hc hboard.symm

/-- **An update tells its listeners,** each once, in their order and of its own text, whatever
they do meanwhile. The induction is on the listeners that are still to be told. -/
theorem tell_serves (hcalm : ∀ listener text, (conduct listener text).Calm) {depth : ℕ}
    (hserves : Serves (Watch.update conduct depth)) {k : ℕ} {text : Text} {listeners : List Text}
    (hk : k < w.begun) (h : w.Sound)
    (hrun : tell conduct (Watch.update conduct depth) k text listeners w = some (out, w')) :
    out = .ok () ∧ Advances (only k (listeners.map (.told k · text))) w w' := by
  induction listeners generalizing w with
  | nil =>
    obtain ⟨rfl, rfl⟩ : .ok () = out ∧ w = w' := by simpa [tell] using hrun
    exact ⟨rfl, (Advances.refl h).of_eq fun n => (ite_self _).symm⟩
  | cons listener rest ih =>
    have htold : Advances (only k [.told k listener text]) w (w.telling k listener text) :=
      h.note_own rfl hk (h.agrees.told k listener text)
    -- What is left is the same whether the listener has failed or not.
    have hrest : ∀ {w₁}, Advances (fun _ => []) (w.telling k listener text) w₁ →
        tell conduct (Watch.update conduct depth) k text rest w₁ = some (out, w') →
        out = .ok () ∧ Advances (only k ((listener :: rest).map (.told k · text))) w w' := by
      intro w₁ hacted hrun
      obtain ⟨hout, hadvances⟩ := ih (hk.trans_le (htold.le.trans hacted.le)) hacted.sound hrun
      have hbefore := (htold.trans hacted fun _ _ => rfl).trans hadvances
        fun n hn => only_of_lt (hk.trans_le hn) _
      refine ⟨hout, hbefore.of_eq fun n => ?_⟩
      rw [List.append_nil, only_append]
      rfl
    rw [tell] at hrun
    split at hrun
    · exact absurd hrun (by simp)
    · rename_i w₁ hact
      exact hrest (act_advances hserves htold.sound hact) hrun
    · rename_i f w₁ hact
      obtain ⟨hordinary, words, hwords⟩ := act_calm hcalm (hcalm listener text) hact
      rw [if_neg (by simp [hordinary]), hwords] at hrun
      have hacted := act_advances hserves htold.sound hact
      exact hrest (hacted.whole (hacted.sound.failing words)) hrun

/-- **An update is served,** and so is every update inside it. The induction is on the depth
of updates inside updates. -/
theorem update_advances (hcalm : ∀ listener text, (conduct listener text).Calm) (depth : ℕ) :
    Serves (Watch.update conduct depth) := by
  induction depth with
  | zero => exact fun text w out w' _ hrun => absurd hrun (by simp [Watch.update])
  | succ depth ih =>
    intro text w out w' h hrun
    have hsound : Sound { w with begun := w.begun + 1 } := ⟨h.agrees, h.throughout, fun n hn =>
      h.fresh n (Nat.le_of_succ_le hn)⟩
    have hbeginning : Advances (only w.begun [.began w.begun text])
        { w with begun := w.begun + 1 } (w.beginning text) :=
      hsound.note_own rfl (Nat.lt_succ_self _) (h.agrees.began w.begun text)
    rw [Watch.update] at hrun
    have htells : ∀ {out w₁}, tell conduct (Watch.update conduct depth) w.begun text
        w.board.listeners (w.beginning text) = some (out, w₁) → out = .ok () ∧
        Advances (only w.begun (w.board.listeners.map (.told w.begun · text))) (w.beginning text) w₁ :=
      tell_serves hcalm ih (Nat.lt_succ_self _) hbeginning.sound
    split at hrun
    · rename_i w₁ htell
      obtain ⟨rfl, rfl⟩ : .ok () = out ∧ w₁.note (.ended w.begun) w₁.board = w' := by
        simpa using hrun
      have htold := (htells htell).2
      have hending : Advances (only w.begun [.ended w.begun]) w₁
          (w₁.note (.ended w.begun) w₁.board) :=
        htold.sound.note_own rfl htold.le (htold.sound.agrees.ended w.begun)
      have hmem : (⟨.began w.begun text, w.board.put text⟩ : Moment) ∈ (w.beginning text).past := by
        simp [beginning, note]
      have hwhole := (hbeginning.trans htold fun n hn => only_of_lt hn _).trans hending
        fun n hn => only_of_lt hn _
      have hown := hwhole.of_eq fun n => by
        rw [only_append, only_append, List.singleton_append, List.cons_append]
      exact hown.serves (w.board.put text) (h.fresh _ le_rfl) (hending.past (htold.past hmem))
    · rename_i hstopped
      obtain rfl := (htells hrun).1
      exact absurd hrun (hstopped w')

/-- **Listeners miss nothing and hear nothing twice.** Whatever calls a program makes on a fresh
board, and whatever calm listeners do as they are told: at every moment the board agrees with
what was done so far, so that no listener is subscribed twice, all stand in the order of
their subscriptions and the text is that of the update that began last. Every update tells
exactly those that were subscribed as it began, each once, in that order and of its own
text. No update fails, on whatever board, and it does return where updates inside updates
have a finite depth. -/
theorem listeners_miss_nothing (hcalm : ∀ listener text, (conduct listener text).Calm)
    {program : Conduct} {depth : ℕ} {b : Board}
    (hrun : Board.act (Board.update conduct depth) program Board.empty = some (out, b)) :
    (∃ w, act (Watch.update conduct depth) program start = some (out, w) ∧ w.board = b ∧
      Agrees (w.past.map Moment.deed) b ∧
      (∀ earlier m later, w.past = earlier ++ m :: later →
        Agrees ((earlier ++ [m]).map Moment.deed) m.board) ∧
      (∀ n < w.begun, Served n w.past) ∧ ∀ n, w.begun ≤ n → ofUpdate n w.past = []) ∧
    (∀ k text b₁ result b₂, Board.update conduct k text b₁ = some (result, b₂) →
      result = .ok ()) ∧
    ∀ k text, Nests conduct k text →
      ∀ b₁, ∃ b₂, Board.update conduct k text b₁ = some (.ok (), b₂) := by
  refine ⟨?_, fun _ _ _ _ _ => Board.update_ok hcalm, fun _ _ => Board.update_returns hcalm⟩
  have hwatched := act_board (update_board conduct depth) program start
  rw [show start.board = Board.empty from rfl, hrun] at hwatched
  obtain ⟨⟨out', w⟩, hact, heq⟩ := Option.map_eq_some_iff.mp hwatched
  obtain ⟨rfl, rfl⟩ : out' = out ∧ w.board = b := by simpa using heq
  have hadvances := act_advances (update_advances hcalm depth) start_sound hact
  exact ⟨w, hact, rfl, hadvances.sound.agrees, hadvances.sound.throughout,
    fun n hn => hadvances.served n (Nat.zero_le n) hn, hadvances.sound.fresh⟩

/-- When it is told `1`, the listener `a` unsubscribes `b`, subscribes `c`, puts `2` on the
board and fails. -/
def quarrel (listener text : Text) : Conduct :=
  if listener = ['a'] ∧ text = ['1'] then
    .unsubscribe ['b'] (.subscribe ['c'] (.update ['2'] (.fail .nullCharacter)))
  else .done

theorem quarrel_calm (listener text : Text) : (quarrel listener text).Calm := by
  unfold quarrel
  split
  · exact ⟨rfl, _, rfl⟩
  · trivial

theorem quarrel_nests : Nests quarrel 2 ['1'] := by
  have hquiet : ∀ listener, (quarrel listener ['2']).Puts fun _ => False := by
    intro listener
    rw [quarrel, if_neg (by simp)]
    trivial
  intro listener
  unfold quarrel
  split
  · exact ⟨hquiet, trivial⟩
  · trivial

/-- The calls that subscribe `a`, `b` and `a` again and put `1` on the board. -/
def calls : Conduct :=
  .subscribe ['a'] (.subscribe ['b'] (.subscribe ['a'] (.update ['1'] .done)))

/-- The listener that is unsubscribed meanwhile still hears of the update that had begun, after
those who hear of the update inside it. -/
theorem unsubscribed_meanwhile_is_told : ∃ b,
    Board.act (Board.update quarrel 2) calls Board.empty = some (.ok (), b) ∧
    b.listeners = [['a'], ['c']] ∧ b.message = some ['2'] ∧
    b.journal.tellings = [(['a'], ['1']), (['a'], ['2']), (['c'], ['2']), (['b'], ['1'])] ∧
    (∃ w : Watch, w.board = b ∧ w.begun = 2 ∧ Served 0 w.past ∧ Served 1 w.past) ∧
    ∀ b₁, ∃ b₂, Board.update quarrel 2 ['1'] b₁ = some (.ok (), b₂) := by
  refine ⟨_, rfl, rfl, rfl, rfl, ?_⟩
  obtain ⟨⟨w, hact, hboard, -, -, hserved, -⟩, -, hreturns⟩ :=
    listeners_miss_nothing quarrel_calm
      (show Board.act (Board.update quarrel 2) calls Board.empty = some (.ok (), _) from rfl)
  have hbegun : some 2 = some w.begun :=
    congrArg (Option.map fun run : Except Fault Unit × Watch => run.2.begun) hact
  have hbegun : w.begun = 2 := (Option.some_inj.mp hbegun).symm
  exact ⟨⟨w, hboard, hbegun, hserved 0 (by omega), hserved 1 (by omega)⟩,
    hreturns 2 ['1'] quarrel_nests⟩

/-- The listener `a` fails, and to ask its failure for words is a failure too. -/
def mute (listener _text : Text) : Conduct :=
  if listener = ['a'] then .fail (.wordless .tooDeep) else .done

/-- A failure without words ends the update in which it occurs: the listener that is
subscribed after the one that fails is not told. -/
theorem wordless_failure_ends_update : ∃ b,
    Board.act (Board.update mute 1) (.subscribe ['a'] (.subscribe ['b'] (.update ['1'] .done)))
      Board.empty = some (.error .tooDeep, b) ∧
    b.listeners = [['a'], ['b']] ∧ b.message = some ['1'] ∧
    b.journal.tellings = [(['a'], ['1'])] := ⟨_, rfl, rfl, rfl, rfl⟩

end Watch
end Courier
