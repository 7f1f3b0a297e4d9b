import Courier.Cycle

/-!
# A cycle seen through a map of states

A cycle knows its state by what the services do with it, and by nothing else.
Where a map of states goes along with every service, it goes along with the
whole cycle.

Key definition: `Services.MapsTo`.
Key theorem: `Cycle.run_map`.
-/

namespace Courier

variable {σ ρ : Type}

/-- The map of states goes along with every service. -/
structure Services.MapsTo (v : Services σ) (view : σ → ρ) (v' : Services ρ) : Prop where
  announce : ∀ text s, v'.announce text (view s) = Prod.map id view (v.announce text s)
  note : ∀ level text s, v'.note level text (view s) = view (v.note level text s)
  problem? : v'.problem? = v.problem?
  payload : v'.payload = v.payload
  post : ∀ payload s, v'.post payload (view s) = Prod.map id view (v.post payload s)
  deliver : ∀ body name s, v'.deliver body name (view s) = Prod.map id view (v.deliver body name s)
  fallbackName : v'.fallbackName = v.fallbackName
  codecs : v'.codecs = v.codecs

namespace Cycle

variable {v : Services σ} {view : σ → ρ} {v' : Services ρ}

theorem receive_map (h : v.MapsTo view v') (r : Response) (s : σ) :
    receive v' r (view s) = Prod.map id view (receive v r s) := by
  unfold receive
  by_cases hr : r.isSuccess = true
  · rw [if_pos hr, if_pos hr, h.announce]
    rcases v.announce Status.generating s with ⟨shown, s₁⟩
    cases shown with
    | error f => rfl
    | ok _ =>
      simp only [Prod.map, id]
      cases r.read with
      | error f => rfl
      | ok body =>
        cases fileNameOf (r.headers.get? dispositionField) with
        | error f => rfl
        | ok name =>
          cases name with
          | some name => rfl
          | none => simp only [h.fallbackName, h.note]
  · rw [if_neg hr, if_neg hr, h.codecs]
    rfl

theorem exchange_map (h : v.MapsTo view v') (payload : Payload) (s : σ) :
    exchange v' payload (view s) = Prod.map id view (exchange v payload s) := by
  unfold exchange
  rw [h.post]
  rcases v.post payload s with ⟨answer, s₁⟩
  cases answer with
  | error f => rfl
  | ok r =>
    simp only [Prod.map, id]
    rw [receive_map h]
    rcases receive v r s₁ with ⟨outcome, s₂⟩
    rfl

theorem conclude_map (h : v.MapsTo view v') (outcome : Outcome) (s : σ) :
    conclude v' outcome (view s) = Prod.map id view (conclude v outcome s) := by
  cases outcome with
  | failure status message => exact h.announce _ s
  | success body name status =>
    unfold conclude
    simp only
    rw [h.deliver]
    rcases v.deliver body name s with ⟨saved, s₁⟩
    cases saved with
    | error f => rfl
    | ok p =>
      simp only [Prod.map, id]
      rw [h.note]
      exact h.announce _ _

theorem attempt_map (h : v.MapsTo view v') (form : Form) (s : σ) :
    attempt v' form (view s) = Prod.map id view (attempt v form s) := by
  unfold attempt
  rw [h.payload]
  cases v.payload form with
  | error f => rfl
  | ok payload =>
    simp only
    rw [h.announce]
    rcases v.announce Status.uploading s with ⟨shown, s₁⟩
    cases shown with
    | error f => rfl
    | ok _ =>
      simp only [Prod.map, id]
      rw [exchange_map h]
      rcases exchange v payload s₁ with ⟨outcome, s₂⟩
      cases outcome with
      | error f => rfl
      | ok outcome => exact conclude_map h outcome s₂

theorem guarded_map (h : v.MapsTo view v') {action : Act σ Unit} {action' : Act ρ Unit} {s : σ}
    (ha : action' (view s) = Prod.map id view (action s)) :
    guarded v' action' (view s) = Prod.map id view (guarded v action s) := by
  unfold guarded
  rw [ha]
  rcases action s with ⟨out, s₁⟩
  cases out with
  | ok _ => rfl
  | error f =>
    simp only [Prod.map, id]
    split
    · rfl
    · rw [h.note]
      cases f.describe with
      | error why => rfl
      | ok told => exact h.announce _ _

/-- **A map of states that goes along with the services goes along with the cycle.** -/
theorem run_map (h : v.MapsTo view v') (form : Form) (s : σ) :
    run v' form (view s) = Prod.map id view (run v form s) := by
  unfold run
  rw [h.announce]
  rcases v.announce Status.preparing s with ⟨shown, s₁⟩
  cases shown with
  | error f => rfl
  | ok _ =>
    simp only [Prod.map, id, h.problem?]
    split
    · exact h.announce _ _
    · exact guarded_map h (attempt_map h form s₁)

end Cycle
end Courier
