import Courier.Proofs.Cycle.Course

/-!
# What every service keeps

A property of states that every service keeps is kept by a whole cycle. What every service but
posting keeps is kept by all that a cycle does after posting.

Key definitions: `Services.Keeps`, `Services.KeepsBeside`.
Key theorems: `Cycle.run_keeps`, `Cycle.receive_keeps`, `Cycle.conclude_keeps`,
`Cycle.guarded_keeps`.
-/

namespace Courier

variable {σ : Type}

/-- Every service keeps the property. -/
structure Services.Keeps (v : Services σ) (P : σ → Prop) : Prop where
  announce : ∀ text s, P s → P (v.announce text s).2
  note : ∀ level text s, P s → P (v.note level text s)
  post : ∀ payload s, P s → P (v.post payload s).2
  deliver : ∀ body name s, P s → P (v.deliver body name s).2

/-- Every service but posting keeps the property. -/
structure Services.KeepsBeside (v : Services σ) (P : σ → Prop) : Prop where
  announce : ∀ text s, P s → P (v.announce text s).2
  note : ∀ level text s, P s → P (v.note level text s)
  deliver : ∀ body name s, P s → P (v.deliver body name s).2

namespace Cycle

variable {v : Services σ} {P : σ → Prop} {form : Form} {s s' : σ}

theorem shown_keeps (hk : v.Keeps P) (text : Text) (h : P s) : P (shown v text s) :=
  hk.announce text s h

theorem ended_keeps (hk : v.Keeps P) (f : Fault) (h : P s) : P (ended v f s).2 := by
  have hnoted := hk.note .error failedRecord s h
  unfold ended
  split
  · exact h
  · cases f.describe with
    | error why => exact hnoted
    | ok told => exact shown_keeps hk _ hnoted

theorem received_keeps (hk : v.Keeps P) (r : Response) (h : P s) : P (received v r s) := by
  unfold received
  split
  · exact hk.note _ _ _ (shown_keeps hk _ h)
  · exact shown_keeps hk _ h

theorem posted_keeps (hk : v.Keeps P) {payload : Payload} {out : Except Fault Response}
    (hpost : v.post payload (shown v Status.uploading (shown v Status.preparing s)) = (out, s'))
    (h : P s) : P s' := by
  have hkept := hk.post payload _ (shown_keeps hk Status.uploading (shown_keeps hk Status.preparing h))
  rwa [hpost] at hkept

theorem delivered_keeps (hk : v.Keeps P) {body : Bytes} {name : Text} {out : Except Fault Path}
    (hdeliver : v.deliver body name s = (out, s')) (h : P s) : P s' := by
  have hkept := hk.deliver body name s h
  rwa [hdeliver] at hkept

/-- What every service keeps holds where a fault is met. -/
theorem Met.keeps (hk : v.Keeps P) {f : Fault} (hmet : Met v form s f s') (h : P s) : P s' := by
  cases hmet with
  | unbuilt => exact shown_keeps hk _ h
  | unanswered complete built fault => exact posted_keeps hk fault h
  | unread answered => exact posted_keeps hk answered.answer h
  | broken answered => exact received_keeps hk _ (posted_keeps hk answered.answer h)
  | undelivered answered success arrived fault =>
    exact delivered_keeps hk fault (received_keeps hk _ (posted_keeps hk answered.answer h))

/-- **A cycle keeps what every service keeps.** -/
theorem run_keeps (hv : AlwaysShows v) (hk : v.Keeps P) (form : Form) (h : P s) :
    P (run v form s).2 := by
  have hcourse := run_course hv form s
  generalize run v form s = result at hcourse ⊢
  cases hcourse with
  | lacking => exact shown_keeps hk _ (shown_keeps hk _ h)
  | failed met => exact ended_keeps hk _ (met.keeps hk h)
  | refused answered => exact shown_keeps hk _ (posted_keeps hk answered.answer h)
  | delivered answered success arrived saved =>
    have hdelivered :=
      delivered_keeps hk saved (received_keeps hk _ (posted_keeps hk answered.answer h))
    exact shown_keeps hk _ (hk.note _ _ _ hdelivered)

/-! ### What every service but posting keeps -/

theorem receive_keeps (hk : v.KeepsBeside P) (r : Response) (h : P s) : P (receive v r s).2 := by
  have hshown := hk.announce Status.generating s h
  unfold receive
  by_cases hr : r.isSuccess = true
  · rw [if_pos hr]
    generalize v.announce Status.generating s = result at hshown ⊢
    obtain ⟨shown, s₁⟩ := result
    cases shown with
    | error f => exact hshown
    | ok _ =>
      dsimp only
      cases r.read with
      | error f => exact hshown
      | ok body =>
        dsimp only
        cases fileNameOf (r.headers.get? dispositionField) with
        | error f => exact hshown
        | ok name =>
          cases name with
          | none => exact hk.note _ _ _ hshown
          | some name => exact hshown
  · rw [if_neg hr]
    exact h

theorem conclude_keeps (hk : v.KeepsBeside P) (outcome : Outcome) (h : P s) :
    P (conclude v outcome s).2 := by
  cases outcome with
  | failure status message => exact hk.announce _ s h
  | success body name status =>
    have hdelivered := hk.deliver body name s h
    unfold conclude
    dsimp only
    generalize v.deliver body name s = result at hdelivered ⊢
    obtain ⟨saved, s₁⟩ := result
    cases saved with
    | error f => exact hdelivered
    | ok p => exact hk.announce _ _ (hk.note _ _ _ hdelivered)

theorem guarded_keeps (hk : v.KeepsBeside P) {action : Act σ Unit} (h : P (action s).2) :
    P (guarded v action s).2 := by
  unfold guarded
  generalize action s = result at h ⊢
  obtain ⟨out, s₁⟩ := result
  cases out with
  | ok _ => exact h
  | error f =>
    have hnoted := hk.note .error failedRecord s₁ h
    dsimp only
    split
    · exact h
    · cases f.describe with
      | error why => exact hnoted
      | ok told => exact hk.announce _ _ hnoted

end Cycle
end Courier
