import Courier.Archive.Staging
import Courier.Proofs.Text.Digits

/-!
# The tokens of temporary files

Different numbers have different tokens, and below the number of tokens every word of
the right length is one of them.

Key theorems: `Archive.letters_inj`, `Archive.token_injective`, `Archive.exists_letters`,
`Archive.exists_token`.
-/

namespace Courier.Archive

theorem letter_inj : ∀ {i : ℕ}, i < alphabet.length → ∀ {j : ℕ}, j < alphabet.length →
    letter i = letter j → i = j := by
  decide +kernel

theorem letter_eq {i : ℕ} (h : i < alphabet.length) : letter i = alphabet[i] := by
  rw [letter, List.getD_eq_getElem?_getD, List.getElem?_eq_getElem h]
  rfl

theorem letter_mem {i : ℕ} (h : i < alphabet.length) : letter i ∈ alphabet :=
  letter_eq h ▸ List.getElem_mem h

theorem length_letters (k n : ℕ) : (letters k n).length = k := by
  induction k generalizing n with
  | zero => rfl
  | succ k ih => rw [letters, List.length_cons, ih]

theorem mem_letters {k n : ℕ} {c : Char} (h : c ∈ letters k n) : c ∈ alphabet := by
  induction k generalizing n with
  | zero => exact absurd h List.not_mem_nil
  | succ k ih =>
    rcases List.mem_cons.mp h with rfl | h
    · exact letter_mem (Nat.mod_lt _ (by decide))
    · exact ih h

/-- The letters tell the number up to their count. -/
theorem letters_inj {k n m : ℕ} (h : letters k n = letters k m) :
    n % power alphabet.length k = m % power alphabet.length k := by
  induction k generalizing n m with
  | zero => exact (Nat.mod_one n).trans (Nat.mod_one m).symm
  | succ k ih =>
    obtain ⟨hfirst, hrest⟩ := List.cons.inj h
    have hlow := letter_inj (Nat.mod_lt n (by decide)) (Nat.mod_lt m (by decide)) hfirst
    rw [power_succ, Nat.mod_mul, Nat.mod_mul, hlow, ih hrest]

/-- Every word is made of the letters of a number. -/
theorem exists_letters {w : Text} (h : ∀ c ∈ w, c ∈ alphabet) :
    ∃ n < power alphabet.length w.length, letters w.length n = w := by
  induction w with
  | nil => exact ⟨0, Nat.one_pos, rfl⟩
  | cons c w ih =>
    obtain ⟨i, hi, hc⟩ := List.mem_iff_getElem.mp (h c List.mem_cons_self)
    obtain ⟨n, hn, hw⟩ := ih fun c' hc' => h c' (List.mem_cons_of_mem c hc')
    have hpos : 0 < alphabet.length := by decide
    refine ⟨i + alphabet.length * n, ?_, ?_⟩
    · rw [List.length_cons, power_succ]
      calc i + alphabet.length * n < alphabet.length * (n + 1) := by rw [Nat.mul_succ]; omega
        _ ≤ alphabet.length * power alphabet.length w.length := Nat.mul_le_mul_left _ hn
    · rw [List.length_cons, letters, Nat.add_mul_mod_self_left, Nat.mod_eq_of_lt hi,
        Nat.add_mul_div_left _ _ hpos, Nat.div_eq_of_lt hi, Nat.zero_add, hw,
        letter_eq hi, hc]

theorem token_injective : Function.Injective token := by
  intro n m h
  have hsize : (letters tokenSize n).length = (letters tokenSize m).length := by
    rw [length_letters, length_letters]
  obtain ⟨hletters, hrest⟩ := List.append_inj h hsize
  have hlow : n % tokenCount = m % tokenCount := letters_inj hletters
  have hhigh : n / tokenCount = m / tokenCount := by
    by_cases hn : n < tokenCount <;> by_cases hm : m < tokenCount
    · rw [Nat.div_eq_of_lt hn, Nat.div_eq_of_lt hm]
    · rw [if_pos hn, if_neg hm] at hrest
      exact absurd hrest.symm Nat.toDigits_ne_nil
    · rw [if_neg hn, if_pos hm] at hrest
      exact absurd hrest Nat.toDigits_ne_nil
    · rw [if_neg hn, if_neg hm] at hrest
      exact Text.ofNat_injective hrest
  rw [← Nat.div_add_mod n tokenCount, ← Nat.div_add_mod m tokenCount, hlow, hhigh]

/-- **Every word of eight letters is the token of a number.** -/
theorem exists_token {w : Text} (hsize : w.length = tokenSize) (h : ∀ c ∈ w, c ∈ alphabet) :
    ∃ n < tokenCount, token n = w := by
  obtain ⟨n, hn, hw⟩ := exists_letters h
  rw [hsize] at hn hw
  exact ⟨n, hn, by rw [token, hw, if_pos (show n < tokenCount from hn), List.append_nil]⟩

/-- Nothing but letters and digits stands in a token. -/
theorem mem_token {n : ℕ} {c : Char} (h : c ∈ token n) : c ∈ alphabet ∨ c.isDigit = true := by
  rcases List.mem_append.mp h with h | h
  · exact .inl (mem_letters h)
  · split at h
    · exact absurd h List.not_mem_nil
    · exact .inr (Nat.isDigit_of_mem_toDigits (by decide) (by decide) h)

end Courier.Archive
