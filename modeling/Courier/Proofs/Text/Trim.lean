import Courier.Proofs.Text.Pieces

/-!
# White space around a text

White space that is put around a text without any at its ends is what `trim`
takes off. Trimming from the right stops at the last character that is no white
space, whatever stands before it.

Key definition: `Text.Blank`.
Key theorems: `Text.trim_padded`, `Text.trim_surrounded`, `Text.exists_trimmed_end`.
-/

namespace Courier.Text

/-- The text is white space. -/
def Blank (t : Text) : Prop := ∀ c ∈ t, isBlank c = true

instance (t : Text) : Decidable (Blank t) := List.decidableBAll (isBlank · = true) t

variable {t w w' : Text}

theorem Blank.nil : Blank [] := fun _ h => absurd h List.not_mem_nil

theorem Blank.append (hw : Blank w) (hw' : Blank w') : Blank (w ++ w') := fun c hc =>
  (List.mem_append.mp hc).elim (hw c) (hw' c)

theorem trimLeft_blank_append (hw : Blank w) (t : Text) : trimLeft (w ++ t) = trimLeft t :=
  List.dropWhile_append_of_pos hw

theorem trimRight_append_blank (hw : Blank w) (t : Text) : trimRight (t ++ w) = trimRight t := by
  rw [trimRight, List.reverse_append,
    List.dropWhile_append_of_pos fun c hc => hw c (List.mem_reverse.mp hc), trimRight]

/-- A text that does not start with white space keeps its front. -/
theorem trimLeft_eq_self (h : ∀ c, t.head? = some c → isBlank c = false) : trimLeft t = t :=
  dropWhile_eq_self h

/-- Nothing is left of white space, and of white space only. -/
theorem trim_eq_nil : trim t = [] ↔ Blank t := by
  show List.rdropWhile isBlank (t.dropWhile isBlank) = [] ↔ Blank t
  rw [List.rdropWhile_eq_nil_iff]
  constructor
  · intro h c hc
    have hcut : c ∈ t.takeWhile isBlank ++ t.dropWhile isBlank := by
      rwa [List.takeWhile_append_dropWhile]
    rcases List.mem_append.mp hcut with hc | hc
    · exact List.mem_takeWhile_imp hc
    · exact h c hc
  · exact fun h c hc => h c ((List.dropWhile_suffix _).mem hc)

/-- **White space around a trimmed text is taken off again.** -/
theorem trim_padded (hw : Blank w) (hw' : Blank w') (ht : IsTrimmed t) :
    trim (w ++ t ++ w') = t := by
  rw [trim, List.append_assoc, trimLeft_blank_append hw]
  by_cases hnil : t = []
  · rw [hnil, List.nil_append, ← List.append_nil w', trimLeft_blank_append hw']
    rfl
  · have hhead : ∀ c, (t ++ w').head? = some c → isBlank c = false := fun c hc => by
      rw [List.head?_append_of_ne_nil _ hnil] at hc
      exact ht.1 c hc
    have hself := trim_eq_self ht
    rw [trim, trimLeft_eq_self ht.1] at hself
    rw [trimLeft_eq_self hhead, trimRight_append_blank hw', hself]

/-- A text is what trimming leaves of it, with white space around. -/
theorem exists_around_trim (t : Text) : ∃ u w, Blank u ∧ Blank w ∧ t = u ++ trim t ++ w := by
  refine ⟨t.takeWhile isBlank, (trimLeft t).rtakeWhile isBlank,
    fun c hc => List.mem_takeWhile_imp hc, fun c hc => List.mem_rtakeWhile_imp hc, ?_⟩
  have hright : trim t ++ (trimLeft t).rtakeWhile isBlank = trimLeft t :=
    List.rdropWhile_append_rtakeWhile
  rw [List.append_assoc, hright]
  exact List.takeWhile_append_dropWhile.symm

/-- **White space put around a text is not seen after trimming.** -/
theorem trim_surrounded {u w : Text} (hu : Blank u) (hw : Blank w) (t : Text) :
    trim (u ++ t ++ w) = trim t := by
  obtain ⟨u', w', hu', hw', ht⟩ := exists_around_trim t
  calc trim (u ++ t ++ w)
    _ = trim ((u ++ u') ++ trim t ++ (w' ++ w)) := by
      conv_lhs => rw [ht]
      simp only [List.append_assoc]
    _ = trim t := trim_padded (hu.append hu') (hw'.append hw) (trim_isTrimmed t)

theorem IsTrimmed.nil : IsTrimmed [] := ⟨fun _ h => by simp at h, fun _ h => by simp at h⟩

/-- A text between two that hold no white space at its outer ends is trimmed. -/
theorem IsTrimmed.between {a b : Text} (m : Text) (ha : a ≠ []) (hb : b ≠ [])
    (hhead : ∀ c, a.head? = some c → isBlank c = false)
    (hlast : ∀ c, b.getLast? = some c → isBlank c = false) : IsTrimmed (a ++ m ++ b) := by
  refine ⟨fun c hc => hhead c ?_, fun c hc => hlast c ?_⟩
  · rwa [List.append_assoc, List.head?_append_of_ne_nil _ ha] at hc
  · rwa [List.getLast?_append_of_ne_nil _ hb] at hc

/-- A trimmed text with white space around it ends, but for white space, where it ends
itself; where it is empty, all of it is white space. -/
theorem exists_trimmed_end (hw : Blank w) (hw' : Blank w') (ht : IsTrimmed t) :
    ∃ body after, w ++ t ++ w' = body ++ after ∧ Blank after ∧
      (∀ c, body.getLast? = some c → isBlank c = false) ∧ trim body = t := by
  by_cases hnil : t = []
  · refine ⟨[], w ++ w', by simp [hnil], hw.append hw', fun c hc => absurd hc (by simp), ?_⟩
    rw [hnil]
    rfl
  · refine ⟨w ++ t, w', rfl, hw', fun c hc => ht.2 c ?_, ?_⟩
    · rwa [List.getLast?_append_of_ne_nil _ hnil] at hc
    · rw [← List.append_nil (w ++ t)]
      exact trim_padded hw Blank.nil ht

end Courier.Text
