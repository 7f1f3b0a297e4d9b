import Courier.Text.Blank
import Courier.Proofs.Text.Pieces
import Mathlib.Logic.Function.Defs

/-!
# Numbers in a text

A natural number can be read back from its digits, also where a space and more
follow them. A greater number has no fewer of them.

Key theorems: `Text.ofNat_injective`, `Text.length_ofNat_mono`, `Text.toDigits_space_inj`.
-/

namespace Courier.Text

theorem ofInt_natCast (n : ℕ) : ofInt n = Nat.toDigits 10 n := by
  rw [ofInt, if_neg (by omega)]
  rfl

/-- Numbers with the same digits are the same. -/
theorem ofNat_injective : Function.Injective ofNat := by
  intro n m h
  have hdigits : Nat.toDigits 10 n = Nat.toDigits 10 m := h
  calc
    n = Nat.ofDigitChars 10 (Nat.toDigits 10 n) 0 := Nat.ofDigitChars_ten_toDigits.symm
    _ = Nat.ofDigitChars 10 (Nat.toDigits 10 m) 0 := by rw [hdigits]
    _ = m := Nat.ofDigitChars_ten_toDigits

/-- A greater number has no fewer digits. -/
theorem length_ofNat_mono {n m : ℕ} (h : n ≤ m) : (ofNat n).length ≤ (ofNat m).length := by
  have hpos : 0 < (Nat.toDigits 10 m).length := Nat.length_toDigits_pos
  have hm : m < 10 ^ (Nat.toDigits 10 m).length :=
    (Nat.length_toDigits_le_iff (by decide) hpos).mp (Nat.le_refl _)
  exact (Nat.length_toDigits_le_iff (by decide) hpos).mpr (Nat.lt_of_le_of_lt h hm)

/-- Nothing but digits stands in a number. -/
theorem notMem_toDigits {c : Char} (hc : c.isDigit = false) (n : ℕ) : c ∉ Nat.toDigits 10 n := by
  intro h
  have hdigit := Nat.isDigit_of_mem_toDigits (by decide) (by decide) h
  rw [hc] at hdigit
  exact absurd hdigit (by simp)

/-- The digits end at the first space. -/
theorem takeWhile_toDigits (n : ℕ) (t : Text) :
    (Nat.toDigits 10 n ++ ' ' :: t).takeWhile (· ≠ ' ') = Nat.toDigits 10 n := by
  have hdigits : ∀ c ∈ Nat.toDigits 10 n, decide (c ≠ ' ') = true := by
    intro c hc
    simpa using fun h : c = ' ' => notMem_toDigits rfl n (h ▸ hc)
  refine takeWhile_run hdigits fun c hc => ?_
  rw [← Option.some.inj hc]
  rfl

theorem toDigits_space_inj {n m : ℕ} {t u : Text}
    (h : Nat.toDigits 10 n ++ ' ' :: t = Nat.toDigits 10 m ++ ' ' :: u) : n = m ∧ t = u := by
  have hdigits : Nat.toDigits 10 n = Nat.toDigits 10 m := by
    rw [← takeWhile_toDigits n t, h, takeWhile_toDigits]
  refine ⟨ofNat_injective hdigits, ?_⟩
  rw [hdigits] at h
  exact List.tail_eq_of_cons_eq (List.append_cancel_left h)

end Courier.Text
