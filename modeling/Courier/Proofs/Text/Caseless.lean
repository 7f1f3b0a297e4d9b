import Courier.Text.Caseless
import Mathlib.Data.List.Forall2
import Mathlib.Data.List.Infix
import Mathlib.Data.Nat.Notation

/-!
# Where a marker stands

A marker stands in a text wherever the text spells it in any letter case. A
character folds to one ASCII letter at most, so two spellings can overlap only
where an end of the marker is a start of it. A marker without such an end is
found where it was put, unless it stands in the text before.

Key definitions: `Text.Spells`, `Text.Holds`, `Text.Ends`, `Text.Unbordered`.
Key theorems: `Text.dropCaseless?_eq_some`, `Text.dropCaseless?_append`,
`Text.dropCaseless?_before`, `Text.searchFor_append_or`, `Text.searchFor_marker`,
`Text.searchFor_spelling`.
-/

namespace Courier.Text

/-- The text is the marker but for letter case. -/
def Spells (t marker : Text) : Prop := List.Forall₂ (fun p c => foldsTo p c = true) marker t

/-- Somewhere in the text the marker stands, in any letter case. -/
def Holds (t marker : Text) : Prop := ∃ spelling, Spells spelling marker ∧ spelling <:+: t

/-- No end of the marker but the whole is a start of it. -/
def Unbordered (marker : Text) : Prop := ∀ n < marker.length, 0 < n → ¬marker.drop n <+: marker

theorem char_le_iff {a b : Char} : a ≤ b ↔ a.toNat ≤ b.toNat := UInt32.le_iff_toNat_le

theorem toNat_toLower (c : Char) :
    c.toLower.toNat = if 65 ≤ c.toNat ∧ c.toNat ≤ 90 then c.toNat + 32 else c.toNat := by
  unfold Char.toLower
  by_cases h : c.val ≥ 'A'.val ∧ c.val ≤ 'Z'.val
  · have hnat : 65 ≤ c.toNat ∧ c.toNat ≤ 90 := by
      simpa [UInt32.le_iff_toNat_le] using h
    rw [dif_pos h, if_pos hnat]
    change (c.val + ('a'.val - 'A'.val)).toNat = c.val.toNat + 32
    rw [UInt32.toNat_add]
    have := hnat.2
    change (c.val.toNat + 32) % 2 ^ 32 = _
    change c.val.toNat ≤ 90 at this
    omega
  · have hnat : ¬(65 ≤ c.toNat ∧ c.toNat ≤ 90) := by
      simpa [UInt32.le_iff_toNat_le] using h
    rw [dif_neg h, if_neg hnat]

theorem isAlphanum_iff {c : Char} : c.isAlphanum = true ↔
    65 ≤ c.toNat ∧ c.toNat ≤ 90 ∨ 97 ≤ c.toNat ∧ c.toNat ≤ 122 ∨ 48 ≤ c.toNat ∧ c.toNat ≤ 57 := by
  have hranges : c.isAlphanum = (decide (65 ≤ c.val ∧ c.val ≤ 90) || (97 ≤ c.val && c.val ≤ 122) ||
      (48 ≤ c.val && c.val ≤ 57)) := rfl
  simp [hranges, UInt32.le_iff_toNat_le, or_assoc]

/-- The ASCII letter to which a character folds, if it folds to one. -/
def folded (c : Char) : Char :=
  if c = '\u0130' ∨ c = '\u0131' then 'i'
  else if c = '\u017f' then 's'
  else if c = '\u212a' then 'k'
  else c.toLower

theorem eq_folded {p c : Char} (hp : p.toNat < 0x80) (h : foldsTo p c = true) : p = folded c := by
  simp only [foldsTo, Bool.or_eq_true, Bool.and_eq_true, beq_iff_eq] at h
  rcases h with ((h | ⟨rfl, h⟩) | ⟨rfl, h⟩) | ⟨rfl, h⟩
  · -- no character that stands outside ASCII and is its own small letter
    have hne : ∀ d : Char, d.toLower = d → 0x80 ≤ d.toNat → c ≠ d := by
      rintro d hd hlarge rfl
      rw [hd] at h
      rw [h] at hlarge
      exact absurd hp (by omega)
    rw [folded, if_neg, if_neg (hne _ (by decide) (by decide)), if_neg (hne _ (by decide) (by decide)), h]
    exact not_or.mpr ⟨hne _ (by decide) (by decide), hne _ (by decide) (by decide)⟩
  · rw [folded, if_pos h]
  · rw [h]
    decide
  · rw [h]
    decide

/-- A character folds to one ASCII character at most. -/
theorem foldsTo_unique {p q c : Char} (hp : p.toNat < 0x80) (hq : q.toNat < 0x80)
    (h : foldsTo p c = true) (h' : foldsTo q c = true) : p = q :=
  (eq_folded hp h).trans (eq_folded hq h').symm

theorem Spells.length_eq {t marker : Text} (h : Spells t marker) : marker.length = t.length :=
  List.Forall₂.length_eq h

/-- What is dropped is a spelling of the marker. -/
theorem dropCaseless?_eq_some {rest : Text} : ∀ {marker t : Text},
    dropCaseless? marker t = some rest ↔ ∃ spelling, Spells spelling marker ∧ t = spelling ++ rest
  | [], t => by simp [dropCaseless?, Spells]
  | p :: ps, [] => by simp [dropCaseless?, Spells, List.forall₂_cons_left_iff]
  | p :: ps, c :: cs => by
    unfold dropCaseless?
    by_cases h : foldsTo p c = true
    · rw [if_pos h, dropCaseless?_eq_some]
      constructor
      · rintro ⟨spelling, hs, rfl⟩
        exact ⟨c :: spelling, .cons h hs, rfl⟩
      · rintro ⟨spelling, hs, ht⟩
        obtain ⟨d, tail, -, htail, rfl⟩ := List.forall₂_cons_left_iff.mp hs
        exact ⟨tail, htail, (List.cons.inj ht).2⟩
    · rw [if_neg h]
      refine iff_of_false (by simp) ?_
      rintro ⟨spelling, hs, ht⟩
      obtain ⟨d, tail, hd, -, rfl⟩ := List.forall₂_cons_left_iff.mp hs
      rw [(List.cons.inj ht).1] at h
      exact h hd

/-- A text spells one ASCII marker at most. -/
theorem Spells.unique {t marker marker' : Text} (hascii : ∀ p ∈ marker, p.toNat < 0x80)
    (hascii' : ∀ p ∈ marker', p.toNat < 0x80) (h : Spells t marker) (h' : Spells t marker') :
    marker = marker' := by
  induction h generalizing marker' with
  | nil => exact (List.forall₂_nil_right_iff.mp h').symm
  | cons hpc _ ih =>
    obtain ⟨q, qs, hqc, hqs, rfl⟩ := List.forall₂_cons_right_iff.mp h'
    rw [foldsTo_unique (hascii _ List.mem_cons_self) (hascii' _ List.mem_cons_self) hpc hqc,
      ih (fun p hp => hascii p (List.mem_cons_of_mem _ hp))
        (fun p hp => hascii' p (List.mem_cons_of_mem _ hp)) hqs]

/-- **Before a marker nothing spells it,** neither in the text before nor across its end: a
spelling across the end would make an end of the marker a start of it. -/
theorem dropCaseless?_before {marker spelling before : Text} (hascii : ∀ p ∈ marker, p.toNat < 0x80)
    (hborder : Unbordered marker) (hs : Spells spelling marker) (hne : before ≠ [])
    (hfree : ¬Holds before marker) (rest : Text) :
    dropCaseless? marker (before ++ (spelling ++ rest)) = none := by
  by_contra hsome
  obtain ⟨r, hr⟩ := Option.ne_none_iff_exists'.mp hsome
  obtain ⟨other, hother, heq⟩ := dropCaseless?_eq_some.mp hr
  have hlength : other.length = spelling.length := hother.length_eq.symm.trans hs.length_eq
  have hmarker := hs.length_eq
  rcases List.append_eq_append_iff.mp heq.symm with ⟨inside, rfl, -⟩ | ⟨across, rfl, hacross⟩
  · exact hfree ⟨other, hother, (List.prefix_append _ _).isInfix⟩
  · -- the other spelling ends with a start of the spelling that was put
    have hlt := List.length_pos_of_ne_nil hne
    rw [List.length_append] at hlength
    have hstart : across <+: spelling :=
      List.prefix_of_prefix_length_le ⟨r, hacross.symm⟩ (List.prefix_append _ _) (by omega)
    have hend : Spells across (marker.drop before.length) := by
      have := List.forall₂_drop before.length hother
      rwa [List.drop_left] at this
    have htake : Spells across (marker.take across.length) := by
      have := List.forall₂_take across.length hs
      rwa [← List.prefix_iff_eq_take.mp hstart] at this
    have hsame := hend.unique (fun p hp => hascii p (List.mem_of_mem_drop hp))
      (fun p hp => hascii p (List.mem_of_mem_take hp)) htake
    by_cases hempty : across = []
    · rw [hempty, List.length_nil] at hlength
      refine hfree ⟨before, ?_, List.infix_rfl⟩
      rwa [hempty, List.append_nil] at hother
    · have hpos := List.length_pos_of_ne_nil hempty
      exact hborder before.length (by omega) hlt (hsame ▸ List.take_prefix _ _)

/-- A text that no character of the marker can go on into does not matter to it. -/
theorem dropCaseless?_append {after : Text} : ∀ {marker : Text},
    (∀ c, after.head? = some c → ∀ p ∈ marker, foldsTo p c = false) → ∀ t,
    dropCaseless? marker (t ++ after) = (dropCaseless? marker t).map (· ++ after)
  | [], _, _ => rfl
  | p :: ps, hstop, [] => by
    cases after with
    | nil => rfl
    | cons c cs =>
      have hp : foldsTo p c = false := hstop c rfl p List.mem_cons_self
      show dropCaseless? (p :: ps) (c :: cs) = none
      rw [dropCaseless?, if_neg (by simp [hp])]
  | p :: ps, hstop, c :: cs => by
    rw [List.cons_append, dropCaseless?, dropCaseless?]
    by_cases h : foldsTo p c = true
    · rw [if_pos h, if_pos h]
      exact dropCaseless?_append (fun d hd q hq => hstop d hd q (List.mem_cons_of_mem _ hq)) cs
    · rw [if_neg h, if_neg h]
      rfl

/-- A text without a character that folds to one of the marker does not start with it. -/
theorem dropCaseless?_eq_none {p : Char} : ∀ {marker t : Text}, p ∈ marker →
    (∀ c ∈ t, foldsTo p c = false) → dropCaseless? marker t = none
  | _ :: _, [], _, _ => rfl
  | q :: qs, c :: cs, hp, hfree => by
    rw [dropCaseless?]
    rcases List.mem_cons.mp hp with rfl | hp
    · rw [hfree c List.mem_cons_self]
      rfl
    · split
      · exact dropCaseless?_eq_none hp fun d hd => hfree d (List.mem_cons_of_mem _ hd)
      · rfl

/-- A search over two texts is one over each of them, if at each place of the first it is
known what is found there. -/
theorem searchFor_append_or {f g : Text → Option Text} {t : Text} : ∀ {before : Text},
    (∀ q, q <:+ before → q ≠ [] → f (q ++ t) = g q) →
    searchFor f (before ++ t) = (searchFor g before).or (searchFor f t)
  | [], _ => rfl
  | c :: before, h => by
    have hhere : f (c :: (before ++ t)) = g (c :: before) :=
      h (c :: before) List.suffix_rfl (by simp)
    have hrest := searchFor_append_or fun q hq hne => h q (hq.trans (List.suffix_cons c before)) hne
    rw [List.cons_append, searchFor, searchFor, hhere, hrest, Option.or_assoc]

theorem searchFor_none : ∀ t : Text, searchFor (fun _ => none) t = none
  | [] => rfl
  | _ :: t => searchFor_none t

/-- A search passes over a text at no place of which there is anything to find. -/
theorem searchFor_append {f : Text → Option Text} {t before : Text}
    (h : ∀ q, q <:+ before → q ≠ [] → f (q ++ t) = none) :
    searchFor f (before ++ t) = searchFor f t := by
  rw [searchFor_append_or h, searchFor_none, Option.none_or]

/-- What is found has been found at a place of the text. -/
theorem exists_of_searchFor {f : Text → Option Text} {found : Text} : ∀ {t : Text},
    searchFor f t = some found → ∃ q, q <:+ t ∧ f q = some found
  | c :: cs, h => by
    rw [searchFor] at h
    cases hhere : f (c :: cs) with
    | some x =>
      rw [hhere, Option.some_or] at h
      exact ⟨c :: cs, List.suffix_rfl, hhere.trans h⟩
    | none =>
      rw [hhere, Option.none_or] at h
      obtain ⟨q, hq, hfound⟩ := exists_of_searchFor h
      exact ⟨q, hq.trans (List.suffix_cons c cs), hfound⟩

theorem Holds.of_suffix {t t' marker : Text} (h : t <:+ t') (hholds : Holds t marker) :
    Holds t' marker := by
  obtain ⟨spelling, hs, hin⟩ := hholds
  exact ⟨spelling, hs, hin.trans h.isInfix⟩

/-- A marker that no other spelling of it can overlap is found where it stands first. -/
theorem searchFor_marker {f : Text → Option Text} {marker spelling before rest found : Text}
    (hascii : ∀ p ∈ marker, p.toNat < 0x80) (hborder : Unbordered marker) (hne : marker ≠ [])
    (hs : Spells spelling marker) (hfree : ¬Holds before marker)
    (hopens : ∀ t, dropCaseless? marker t = none → f t = none)
    (hhere : f (spelling ++ rest) = some found) :
    searchFor f (before ++ (spelling ++ rest)) = some found := by
  have hbefore : ∀ q, q <:+ before → q ≠ [] → f (q ++ (spelling ++ rest)) = none := by
    intro q hq hqne
    have hfree' : ¬Holds q marker := fun hq' => hfree (hq'.of_suffix hq)
    exact hopens _ (dropCaseless?_before hascii hborder hs hqne hfree' rest)
  obtain ⟨c, cs, hcons⟩ : ∃ c cs, spelling ++ rest = c :: cs := by
    refine List.exists_cons_of_ne_nil fun hnil => hne ?_
    rw [← List.length_eq_zero_iff, hs.length_eq, (List.append_eq_nil_iff.mp hnil).1, List.length_nil]
  rw [searchFor_append hbefore, hcons, searchFor, ← hcons, hhere, Option.some_or]

/-- A text that starts with the marker holds it. -/
theorem holds_of_dropCaseless? {t rest marker : Text} (h : dropCaseless? marker t = some rest) :
    Holds t marker := by
  obtain ⟨spelling, hs, rfl⟩ := dropCaseless?_eq_some.mp h
  exact ⟨spelling, hs, (List.prefix_append _ _).isInfix⟩

theorem holds_iff_tails {t marker : Text} :
    Holds t marker ↔ ∃ tail ∈ t.tails, (dropCaseless? marker tail).isSome = true := by
  constructor
  · rintro ⟨spelling, hs, before, after, rfl⟩
    refine ⟨spelling ++ after, ?_, ?_⟩
    · rw [List.mem_tails, List.append_assoc]
      exact List.suffix_append _ _
    · rw [dropCaseless?_eq_some.mpr ⟨spelling, hs, rfl⟩]
      rfl
  · rintro ⟨tail, htail, hsome⟩
    obtain ⟨rest, hrest⟩ := Option.isSome_iff_exists.mp hsome
    obtain ⟨spelling, hs, rfl⟩ := dropCaseless?_eq_some.mp hrest
    exact ⟨spelling, hs, (List.prefix_append _ _).isInfix.trans ((List.mem_tails _ _).mp htail).isInfix⟩

instance (t marker : Text) : Decidable (Holds t marker) := decidable_of_iff' _ holds_iff_tails

/-- The text ends in the marker, in any letter case. -/
def Ends (t marker : Text) : Prop := ∃ spelling, Spells spelling marker ∧ spelling <:+ t

instance (t marker : Text) : Decidable (Spells t marker) :=
  inferInstanceAs (Decidable (List.Forall₂ (fun p c => foldsTo p c = true) marker t))

theorem ends_iff_tails {t marker : Text} :
    Ends t marker ↔ ∃ tail ∈ t.tails, Spells tail marker := by
  simp only [Ends, List.mem_tails, and_comm]

instance (t marker : Text) : Decidable (Ends t marker) := decidable_of_iff' _ ends_iff_tails

/-- The marker is all that is dropped from a spelling of it. -/
theorem dropCaseless?_eq_nil {t marker : Text} :
    dropCaseless? marker t = some [] ↔ Spells t marker := by
  rw [dropCaseless?_eq_some]
  simp only [List.append_nil]
  constructor
  · rintro ⟨spelling, hs, rfl⟩
    exact hs
  · exact fun hs => ⟨t, hs, rfl⟩

/-- To search for an end that spells the marker is to ask whether the text ends in it. -/
theorem searchFor_spelling {marker : Text} (hmarker : marker ≠ []) (found : Option Text) :
    ∀ t : Text, searchFor (fun q => if Spells q marker then found else none) t =
      if Ends t marker then found else none
  | [] => by
    have hnot : ¬Ends [] marker := by
      rintro ⟨spelling, hs, hnil⟩
      rw [List.suffix_nil.mp hnil] at hs
      exact hmarker (List.forall₂_nil_right_iff.mp hs)
    rw [if_neg hnot]
    rfl
  | c :: cs => by
    have hends : Ends (c :: cs) marker ↔ Spells (c :: cs) marker ∨ Ends cs marker := by
      rw [ends_iff_tails, ends_iff_tails, List.tails_cons]
      simp
    rw [searchFor, searchFor_spelling hmarker found cs]
    simp only [hends]
    by_cases hhere : Spells (c :: cs) marker
    · rw [if_pos hhere, if_pos (Or.inl hhere)]
      split <;> simp
    · simp [hhere]

end Courier.Text
