import Courier.Text.Split
import Mathlib.Data.List.DropRight

/-!
# Pieces, runs and ends of a text

The pieces of a text at a separator hold no separator, and joined by it they
give the text back; pieces without a separator, joined, are cut at the same
places again. A run of characters in front is taken to its end and no further.
What `trim` leaves has no white space at either end, and a text
that has none there is left as it is.

Key definitions: `Text.IsTrimmed`.
Key theorems: `Text.intercalate_splitOn`, `Text.splitOn_intercalate`, `Text.splitOn_append`,
`Text.takeWhile_run`, `Text.trim_isTrimmed`, `Text.trim_eq_self`.
-/

namespace Courier.Text

theorem splitWhere_eq_splitOnP {α : Type} (separates : α → Bool) :
    ∀ l : List α, splitWhere separates l = l.splitOnP separates
  | [] => rfl
  | a :: l => by
    rw [List.splitOnP_cons_eq_if_modifyHead, splitWhere, splitWhere_eq_splitOnP separates l]
    by_cases h : separates a = true
    · rw [if_pos h, if_pos h]
    · rw [if_neg h, if_neg h]
      obtain ⟨part, parts, hp⟩ := List.exists_cons_of_ne_nil (List.splitOnP_ne_nil separates l)
      rw [hp]
      rfl

/-- Cutting at a character is what the standard library does. -/
theorem splitOn_eq (sep : Char) (t : Text) : splitOn sep t = List.splitOn sep t :=
  splitWhere_eq_splitOnP _ t

/-- The pieces joined by the separator are the text. -/
theorem intercalate_splitOn (sep : Char) (t : Text) : [sep].intercalate (splitOn sep t) = t := by
  rw [splitOn_eq, List.intercalate_splitOn]

/-- Pieces without a separator are what the text joined from them is cut into. -/
theorem splitOn_intercalate (sep : Char) {pieces : List Text} (hne : pieces ≠ [])
    (h : ∀ piece ∈ pieces, sep ∉ piece) : splitOn sep ([sep].intercalate pieces) = pieces := by
  rw [splitOn_eq, List.splitOn_intercalate sep h hne]

theorem splitOn_cons_self (sep : Char) (t : Text) :
    splitOn sep (sep :: t) = [] :: splitOn sep t := by
  rw [splitOn_eq, splitOn_eq, List.splitOn_cons_eq_if_modifyHead, if_pos (beq_self_eq_true sep)]

/-- Around a separator, a text is cut as its two parts are. -/
theorem splitOn_append (sep : Char) (u : Text) :
    ∀ t : Text, splitOn sep (t ++ sep :: u) = splitOn sep t ++ splitOn sep u
  | [] => by
    rw [List.nil_append, splitOn_cons_self]
    rfl
  | c :: t => by
    have ih := splitOn_append sep u t
    rw [splitOn_eq, splitOn_eq, splitOn_eq] at ih ⊢
    rw [List.cons_append, List.splitOn_cons_eq_if_modifyHead, List.splitOn_cons_eq_if_modifyHead, ih]
    by_cases hc : (c == sep) = true
    · rw [if_pos hc, if_pos hc]
      rfl
    · rw [if_neg hc, if_neg hc]
      obtain ⟨piece, pieces, hpieces⟩ := List.exists_cons_of_ne_nil (List.splitOn_ne_nil sep t)
      rw [hpieces]
      rfl

/-- No piece holds the separator. -/
theorem not_mem_of_mem_splitOn (sep : Char) : ∀ (t : Text) {piece : Text},
    piece ∈ splitOn sep t → sep ∉ piece
  | [], piece, h => by
    rw [splitOn_eq, List.splitOn_nil, List.mem_singleton] at h
    simp [h]
  | c :: t, piece, h => by
    rw [splitOn_eq, List.splitOn_cons_eq_if_modifyHead, ← splitOn_eq] at h
    by_cases hc : (c == sep) = true
    · rw [if_pos hc, List.mem_cons] at h
      rcases h with rfl | h
      · exact List.not_mem_nil
      · exact not_mem_of_mem_splitOn sep t h
    · rw [if_neg hc] at h
      have ih : ∀ x ∈ splitOn sep t, sep ∉ x := fun x hx => not_mem_of_mem_splitOn sep t hx
      generalize splitOn sep t = pieces at h ih
      cases pieces with
      | nil => exact absurd h List.not_mem_nil
      | cons first rest =>
        rw [List.modifyHead_cons, List.mem_cons] at h
        rcases h with rfl | h
        · intro hmem
          rcases List.mem_cons.mp hmem with rfl | hmem
          · exact hc (beq_self_eq_true _)
          · exact ih first List.mem_cons_self hmem
        · exact ih piece (List.mem_cons_of_mem _ h)

theorem mem_intercalate_of_mem (sep : Char) {a : Char} {piece : Text} (ha : a ∈ piece) :
    ∀ {pieces : List Text}, piece ∈ pieces → a ∈ [sep].intercalate pieces
  | first :: [], h => by
    rw [List.mem_singleton] at h
    simpa [← h] using ha
  | first :: second :: rest, h => by
    rw [List.intercalate_cons_cons]
    rcases List.mem_cons.mp h with rfl | h
    · simp [ha]
    · exact List.mem_append_right _ (mem_intercalate_of_mem sep ha h)

/-- In joined pieces stands what stands in one of them, and the separator. -/
theorem of_mem_intercalate (sep : Char) {a : Char} :
    ∀ {pieces : List Text}, a ∈ [sep].intercalate pieces → a = sep ∨ ∃ piece ∈ pieces, a ∈ piece
  | [], h => absurd h List.not_mem_nil
  | [first], h => by
    rw [List.intercalate_singleton] at h
    exact Or.inr ⟨first, List.mem_singleton_self first, h⟩
  | first :: second :: rest, h => by
    rw [List.intercalate_cons_cons, List.append_assoc, List.mem_append, List.mem_append,
      List.mem_singleton] at h
    rcases h with h | h | h
    · exact Or.inr ⟨first, List.mem_cons_self, h⟩
    · exact Or.inl h
    · rcases of_mem_intercalate sep h with h | ⟨piece, hpiece, h⟩
      · exact Or.inl h
      · exact Or.inr ⟨piece, List.mem_cons_of_mem first hpiece, h⟩

/-- What stands in a piece stands in the text. -/
theorem mem_of_mem_splitOn {sep a : Char} {t piece : Text} (hp : piece ∈ splitOn sep t)
    (ha : a ∈ piece) : a ∈ t := by
  rw [← intercalate_splitOn sep t]
  exact mem_intercalate_of_mem sep ha hp

/-! ### The run in front -/

section Run

variable {p : Char → Bool} {run rest : Text}

theorem takeWhile_eq_nil (h : ∀ c, rest.head? = some c → p c = false) : rest.takeWhile p = [] := by
  cases rest with
  | nil => rfl
  | cons c cs => exact List.takeWhile_cons_of_neg (by simp [h c rfl])

theorem dropWhile_eq_self (h : ∀ c, rest.head? = some c → p c = false) :
    rest.dropWhile p = rest := by
  cases rest with
  | nil => rfl
  | cons c cs => exact List.dropWhile_cons_of_neg (by simp [h c rfl])

/-- **A run is taken to its end and no further,** where what follows does not go on with it. -/
theorem takeWhile_run (hrun : ∀ c ∈ run, p c = true)
    (hrest : ∀ c, rest.head? = some c → p c = false) : (run ++ rest).takeWhile p = run := by
  rw [List.takeWhile_append_of_pos hrun, takeWhile_eq_nil hrest, List.append_nil]

end Run

/-! ### White space at the ends -/

/-- No white space stands at either end of the text. -/
def IsTrimmed (t : Text) : Prop :=
  (∀ c, t.head? = some c → isBlank c = false) ∧ ∀ c, t.getLast? = some c → isBlank c = false

theorem trimRight_prefix (t : Text) : trimRight t <+: t := List.rdropWhile_prefix isBlank t

theorem mem_of_mem_trim {t : Text} {a : Char} (h : a ∈ trim t) : a ∈ t := by
  have hleft : a ∈ trimLeft t := List.IsPrefix.mem h <| trimRight_prefix (trimLeft t)
  exact List.IsSuffix.mem hleft (List.dropWhile_suffix isBlank)

/-- **What is trimmed has no white space at its ends.** -/
theorem trim_isTrimmed (t : Text) : IsTrimmed (trim t) := by
  constructor
  · intro c hc
    have hlead : (trimLeft t).head? = some c := by
      obtain ⟨rest, hrest⟩ := trimRight_prefix (trimLeft t)
      rw [← hrest, List.head?_append_of_ne_nil]
      · exact hc
      · intro hnil
        rw [show trim t = [] from hnil] at hc
        exact absurd hc (by simp)
    have := List.head?_dropWhile_not isBlank t
    rw [show (t.dropWhile isBlank).head? = some c from hlead] at this
    exact this
  · intro c hc
    have hne : List.rdropWhile isBlank (trimLeft t) ≠ [] := by
      intro hnil
      rw [show trim t = [] from hnil] at hc
      exact absurd hc (by simp)
    have hlast := List.rdropWhile_last_not isBlank (trimLeft t) hne
    rw [show (List.rdropWhile isBlank (trimLeft t)).getLast hne = c from
      List.getLast_of_getLast?_eq_some hc] at hlast
    simpa using hlast

/-- A text without white space at its ends is left as it is. -/
theorem trim_eq_self {t : Text} (h : IsTrimmed t) : trim t = t := by
  have hleft : trimLeft t = t := dropWhile_eq_self h.1
  rw [trim, hleft]
  rcases List.eq_nil_or_concat t with rfl | ⟨init, last, rfl⟩
  · rfl
  · have := h.2 last (by simp)
    simp [trimRight, this]

end Courier.Text
