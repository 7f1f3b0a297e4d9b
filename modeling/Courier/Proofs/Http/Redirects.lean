import Courier.Http.Client
import Courier.Proofs.Fault
import Mathlib.Data.Nat.Notation

/-!
# Where redirections lead

A client that follows redirections does nothing but send requests. Whatever
every single sending keeps is therefore kept by a post, and the response that a
post gives is the one to its last request.

Key theorems: `Client.follow_onward`, `Client.follow_response`, `Client.post_onward`,
`Client.post_response`, `Client.post_map`.
-/

namespace Courier.Client

/-! ### What sending keeps -/

section Onward

variable {σ : Type} {R : σ → σ → Prop} {send : Request → Act σ Response}
  (hrefl : ∀ s, R s s) (htrans : ∀ {s₁ s₂ s₃}, R s₁ s₂ → R s₂ s₃ → R s₁ s₃)
  (hsend : ∀ q s, R s (send q s).2)

include hrefl htrans hsend

/-- What every sending keeps, following redirections keeps. The induction is on
the number of requests that may still be sent. -/
theorem follow_onward : ∀ (left : ℕ) (q : Request) (s : σ), R s (follow send left q s).2
  | 0, _, s => hrefl s
  | left + 1, q, s => by
    have hq := hsend q s
    unfold follow
    rcases hs : send q s with ⟨out, s₁⟩
    rw [hs] at hq
    cases out with
    | error f => exact hq
    | ok response =>
      simp only
      split
      · exact hq
      · exact hq
      · split
        · exact hq
        · split
          · exact hq
          · exact htrans hq (follow_onward left _ s₁)

/-- The response at the end of all redirections is the one to the last request. -/
theorem follow_response {x : Exchange} {s' : σ} : ∀ {left : ℕ} {q : Request} {s : σ},
    follow send left q s = (.ok x, s') → ∃ q' s₁, R s s₁ ∧ send q' s₁ = (.ok x.response, s')
  | 0, _, s, h => absurd h error_ne_ok
  | left + 1, q, s, h => by
    have hq := hsend q s
    unfold follow at h
    rcases hs : send q s with ⟨out, s₁⟩
    rw [hs] at h hq
    cases out with
    | error f => exact absurd h error_ne_ok
    | ok response =>
      simp only at h
      split at h
      · exact absurd h error_ne_ok
      · obtain ⟨hx, rfl⟩ := Prod.mk.inj h
        rw [← Except.ok.inj hx]
        exact ⟨q, s, hrefl s, hs⟩
      · split at h
        · exact absurd h error_ne_ok
        · split at h
          · exact absurd h error_ne_ok
          · obtain ⟨q', s₂, hon, hlast⟩ := follow_response h
            exact ⟨q', s₂, htrans hq hon, hlast⟩

variable {c : Client} {note : Level → Text → σ → σ} {base : Option Url} {payload : Payload} {s : σ}
  (hnote : ∀ level text s, R s (note level text s))

include hnote

/-- What every sending and every record keep, a post keeps. -/
theorem post_onward : R s (c.post note send base payload s).2 := by
  unfold post
  split
  · exact hrefl s
  · rename_i url
    simp only
    split
    · exact hnote _ _ s
    · exact htrans (hnote _ _ s) (follow_onward hrefl htrans hsend _ _ _)

/-- The response to a post is the one to the last request of it. -/
theorem post_response {x : Exchange} {s' : σ} (h : c.post note send base payload s = (.ok x, s')) :
    ∃ q s₁, R s s₁ ∧ send q s₁ = (.ok x.response, s') := by
  unfold post at h
  split at h
  · exact absurd h error_ne_ok
  · rename_i url
    simp only at h
    split at h
    · exact absurd h error_ne_ok
    · obtain ⟨q, s₁, hon, hlast⟩ := follow_response hrefl htrans hsend h
      exact ⟨q, s₁, htrans (hnote _ _ s) hon, hlast⟩

end Onward

/-! ### Posting seen through a map of states -/

section View

variable {σ ρ : Type} {view : σ → ρ} {send : Request → Act σ Response}
  {send' : Request → Act ρ Response}
  (hsend : ∀ q s, send' q (view s) = Prod.map id view (send q s))

include hsend

theorem follow_map : ∀ (left : ℕ) (q : Request) (s : σ),
    follow send' left q (view s) = Prod.map id view (follow send left q s)
  | 0, _, _ => rfl
  | left + 1, q, s => by
    unfold follow
    rw [hsend]
    rcases send q s with ⟨out, s₁⟩
    cases out with
    | error f => rfl
    | ok response =>
      simp only [Prod.map, id]
      split
      · rfl
      · rfl
      · split
        · rfl
        · split
          · rfl
          · exact follow_map left _ s₁

/-- A map of states that goes along with sending and logging goes along with posting. -/
theorem post_map {note : Level → Text → σ → σ} {note' : Level → Text → ρ → ρ}
    (hnote : ∀ level text s, note' level text (view s) = view (note level text s)) (c : Client)
    (base : Option Url) (payload : Payload) (s : σ) :
    c.post note' send' base payload (view s) = Prod.map id view (c.post note send base payload s) := by
  unfold post
  cases base with
  | none => rfl
  | some base =>
    simp only
    rw [hnote]
    cases c.request base payload with
    | error f => rfl
    | ok q => exact follow_map hsend _ q _

end View

end Courier.Client
