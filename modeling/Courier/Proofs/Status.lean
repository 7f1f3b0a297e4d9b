import Courier.Status
import Courier.Proofs.Text.Digits

/-!
# Status texts can be told apart

A status text that tells a failure can be read back: the words that follow the
lead of an error, and the status and the words of a server's refusal.

Key theorems: `Status.error_inj`, `Status.serverError_inj`, `Status.error_ne_serverError`.
-/

namespace Courier

namespace Status

theorem error_inj {d e : Text} : error d = error e ↔ d = e := by
  unfold error
  rw [List.append_cancel_left_eq]

/-- **The status and the words of a refusal can be read back from its text.** -/
theorem serverError_inj {n m : ℕ} {d e : Text} :
    serverError n d = serverError m e ↔ n = m ∧ d = e := by
  refine ⟨fun h => ?_, fun h => by rw [h.1, h.2]⟩
  unfold serverError at h
  rw [Text.ofInt_natCast, Text.ofInt_natCast] at h
  simp only [List.append_assoc, List.append_cancel_left_eq] at h
  obtain ⟨rfl, htail⟩ := Text.toDigits_space_inj (t := '-' :: ' ' :: d) (u := '-' :: ' ' :: e) h
  exact ⟨rfl, by simpa using htail⟩

theorem head?_error (d : Text) : (error d).head? = some 'E' := rfl

theorem head?_serverError (n : Int) (d : Text) : (serverError n d).head? = some 'S' := rfl

theorem error_ne_serverError (d : Text) (n : Int) (e : Text) : error d ≠ serverError n e := by
  intro h
  have hfirst : some 'E' = some 'S' := by rw [← head?_error d, h, head?_serverError]
  exact absurd hfirst (by decide)

theorem error_ne_downloadStarted (d : Text) : error d ≠ downloadStarted := by
  intro h
  have hfirst : some 'E' = some 'D' := by
    rw [← head?_error d, h]
    rfl
  exact absurd hfirst (by decide)

theorem serverError_ne_downloadStarted (n : Int) (d : Text) : serverError n d ≠ downloadStarted := by
  intro h
  have hfirst : some 'S' = some 'D' := by
    rw [← head?_serverError n d, h]
    rfl
  exact absurd hfirst (by decide)

end Status
end Courier
