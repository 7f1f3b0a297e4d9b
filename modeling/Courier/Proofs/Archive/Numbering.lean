import Courier.Proofs.Archive.Candidates
import Courier.Proofs.Bytes.Boundaries

/-!
# The row of candidates

A number goes in before the suffix of a name, and brings no dot along. So the last dot of a
name that does not end in one stays the last, and every candidate of a path has its suffix.
Greater numbers have no fewer digits, so the candidates grow and none of them comes twice.

Key theorems: `Path.dotted_or_plain`, `Archive.suffix_numbered`, `Archive.candidate_inj`,
`Archive.candidates_never_repeat`.
-/

namespace Courier

namespace Path

variable {p : Path} {a b t : Text}

/-! ### The last dot of a name -/

theorem lastDot?_eq_none : ∀ {t : Text}, '.' ∉ t → lastDot? t = none
  | [], _ => rfl
  | c :: t, h => by
    have hc : c ≠ '.' := fun hc => h (by simp [hc])
    have ht : lastDot? t = none := lastDot?_eq_none fun ht => h (List.mem_cons_of_mem c ht)
    simp [lastDot?, ht, hc]

theorem lastDot?_append (hb : '.' ∉ b) : ∀ a : Text, lastDot? (a ++ '.' :: b) = some a.length
  | [] => by simp [lastDot?, lastDot?_eq_none hb]
  | c :: a => by simp [lastDot?, lastDot?_append hb a]

/-- The stem ends at a last dot that stands inside the name. -/
theorem stemLength_dotted (ha : a ≠ []) (hb : b ≠ []) (hdot : '.' ∉ b) :
    stemLength (a ++ '.' :: b) = a.length := by
  have hlead := List.length_pos_of_ne_nil ha
  have hrest := List.length_pos_of_ne_nil hb
  have hinside : 0 < a.length ∧ a.length + 1 < (a ++ '.' :: b).length := by
    simp
    omega
  rw [stemLength, lastDot?_append hdot]
  exact if_pos hinside

/-- A name is all stem when it has no dot after its first character. -/
theorem stemLength_plain (h : '.' ∉ t.tail) : stemLength t = t.length := by
  cases t with
  | nil => rfl
  | cons c t =>
    have hnone : lastDot? t = none := lastDot?_eq_none h
    by_cases hc : c = '.'
    · simp [stemLength, lastDot?, hnone, hc]
    · simp [stemLength, lastDot?, hnone, hc]

theorem suffix_of_dotted (h : p.name = a ++ '.' :: b) (ha : a ≠ []) (hb : b ≠ [])
    (hdot : '.' ∉ b) : p.stem = a ∧ p.suffix = '.' :: b := by
  rw [stem, suffix, h, stemLength_dotted ha hb hdot]
  exact ⟨List.take_left, List.drop_left⟩

theorem suffix_of_plain (h : '.' ∉ p.name.tail) : p.stem = p.name ∧ p.suffix = [] := by
  rw [stem, suffix, stemLength_plain h]
  exact ⟨List.take_length, List.drop_length⟩

/-- A name that does not end in a dot has its last dot inside, or none after its first character. -/
theorem dotted_or_plain (h : t.getLast? ≠ some '.') :
    (∃ a b, t = a ++ '.' :: b ∧ a ≠ [] ∧ b ≠ [] ∧ '.' ∉ b) ∨ '.' ∉ t.tail := by
  by_cases hdot : '.' ∈ t.tail
  · left
    obtain ⟨c, rest, rfl⟩ := List.exists_cons_of_ne_nil (l := t) (by rintro rfl; simp at hdot)
    -- the last dot of a text is the first one of the text read backwards
    obtain ⟨after, before, hsplit, hafter⟩ :=
      List.eq_append_cons_of_mem (List.mem_reverse.mpr hdot)
    have hrest : rest = before.reverse ++ '.' :: after.reverse := by
      rw [← List.reverse_reverse rest, show rest.reverse = _ from hsplit]
      simp
    have hne : after ≠ [] := by
      rintro rfl
      rw [hrest, List.reverse_nil, ← List.cons_append] at h
      exact h List.getLast?_concat
    exact ⟨c :: before.reverse, after.reverse, by simp [hrest], by simp, by simpa using hne,
      by simpa using hafter⟩
  · exact Or.inr hdot

end Path

namespace Archive

variable {p q : Path}

/-! ### Names with a number -/

/-- **A number leaves the suffix of a name as it is.** -/
theorem suffix_numbered {n : ℕ} (hname : p.name ≠ []) (hlast : p.name.getLast? ≠ some '.')
    (hq : q.name = numbered p n) : q.suffix = p.suffix := by
  have hnumber : '.' ∉ Text.ofNat n := Text.notMem_toDigits (by decide) n
  rcases Path.dotted_or_plain hlast with ⟨a, b, hsplit, ha, hb, hdot⟩ | hplain
  · -- the number goes in before the last dot, which stays the last one
    obtain ⟨hstem, hsuffix⟩ := Path.suffix_of_dotted hsplit ha hb hdot
    have hsplit' : q.name = (a ++ " (".toList ++ Text.ofNat n ++ [')']) ++ '.' :: b := by
      rw [hq, numbered, hstem, hsuffix]
    rw [(Path.suffix_of_dotted hsplit' (by simp [ha]) hb hdot).2, hsuffix]
  · -- without a suffix the number goes to the end, and brings no dot along
    obtain ⟨hstem, hsuffix⟩ := Path.suffix_of_plain hplain
    obtain ⟨c, rest, hcons⟩ := List.exists_cons_of_ne_nil hname
    have hplain' : '.' ∉ q.name.tail := by
      rw [hcons] at hplain
      rw [hq, numbered, hstem, hsuffix, hcons]
      simpa using ⟨hplain, hnumber⟩
    rw [(Path.suffix_of_plain hplain').2, hsuffix]

/-- A number makes a name longer by its digits, a space and two brackets. -/
theorem size_numbered (n : ℕ) :
    Utf8.size (numbered p n) = Utf8.size p.name + (3 + (Text.ofNat n).length) := by
  have hdigits : Utf8.size (Text.ofNat n) = (Text.ofNat n).length := by
    refine Utf8.size_of_ascii fun c hc => ?_
    have hdigit : c.isDigit = true := Nat.isDigit_of_mem_toDigits (by decide) (by decide) hc
    have hrange : c.val ≥ '0'.val ∧ c.val ≤ '9'.val := by simpa [Char.isDigit] using hdigit
    exact Nat.lt_of_le_of_lt (UInt32.le_iff_toNat_le.mp hrange.2) (by decide)
  have hname : Utf8.size p.stem + Utf8.size p.suffix = Utf8.size p.name := by
    rw [← Utf8.size_append, stem_append_suffix]
  have hopen : Utf8.size " (".toList = 2 := by decide
  have hclose : Utf8.size [')'] = 1 := by decide
  rw [numbered, Utf8.size_append, Utf8.size_append, Utf8.size_append, Utf8.size_append, hdigits,
    hopen, hclose]
  omega

/-! ### The row -/

/-- A candidate is as long as the wanted name, and longer by its number. -/
theorem size_candidate {n : ℕ} (hq : candidate p n = .ok q) : Utf8.size q.name =
    Utf8.size p.name + if n = 0 then 0 else 3 + (Text.ofNat n).length := by
  rw [candidate_name hq]
  by_cases hn : n = 0
  · rw [if_pos hn, if_pos hn, Nat.add_zero]
  · rw [if_neg hn, if_neg hn, size_numbered]

/-- No candidate comes twice. -/
theorem candidate_inj {n m : ℕ} (hn : candidate p n = .ok q) (hm : candidate p m = .ok q) :
    n = m := by
  have hsize := (size_candidate hn).symm.trans (size_candidate hm)
  have hname := (candidate_name hn).symm.trans (candidate_name hm)
  by_cases hzero : n = 0 ∨ m = 0
  · -- the wanted name is shorter than all that have a number
    split_ifs at hsize <;> omega
  · rw [not_or] at hzero
    rw [if_neg hzero.1, if_neg hzero.2] at hname
    exact numbered_injective p hname

/-- A later candidate is no shorter. -/
theorem size_candidate_mono {n m : ℕ} {q' : Path} (h : n ≤ m) (hq : candidate p n = .ok q)
    (hq' : candidate p m = .ok q') : Utf8.size q.name ≤ Utf8.size q'.name := by
  have hdigits := Text.length_ofNat_mono h
  rw [size_candidate hq, size_candidate hq']
  split_ifs <;> omega

theorem candidate_suffix {n : ℕ} (hname : p.name ≠ []) (hlast : p.name.getLast? ≠ some '.')
    (hq : candidate p n = .ok q) : q.suffix = p.suffix := by
  have hqname := candidate_name hq
  by_cases hn : n = 0
  · rw [if_pos hn] at hqname
    rw [Path.suffix, Path.suffix, hqname]
  · rw [if_neg hn] at hqname
    exact suffix_numbered hname hlast hqname

/-- Every candidate starts with the stem of the wanted name and ends with its suffix. -/
theorem candidate_ends {n : ℕ} (hq : candidate p n = .ok q) :
    p.stem <+: q.name ∧ p.suffix <:+ q.name := by
  rw [candidate_name hq]
  by_cases hn : n = 0
  · rw [if_pos hn, ← stem_append_suffix p]
    exact ⟨List.prefix_append _ _, List.suffix_append _ _⟩
  · rw [if_neg hn]
    refine ⟨?_, List.suffix_append _ _⟩
    unfold numbered
    simp only [List.append_assoc]
    exact List.prefix_append _ _

/-- **The candidates of a path never repeat, and keep their place and their suffix.** A path with a
name has endlessly many, all in its folder and the path itself first. Each starts with the stem
of the name and ends with its suffix, none is shorter than one before it, and all have the suffix
of the path, unless its name ends in a dot. A path without a name has no second candidate. -/
theorem candidates_never_repeat (p : Path) :
    (p.name ≠ [] → ∃ row : ℕ → Path, (∀ n, candidate p n = .ok (row n)) ∧
      Function.Injective row ∧ row 0 = p ∧ (∀ n, (row n).parent = p.parent) ∧
      (∀ n, p.stem <+: (row n).name ∧ p.suffix <:+ (row n).name) ∧
      (∀ n m, n ≤ m → Utf8.size (row n).name ≤ Utf8.size (row m).name) ∧
      (p.name.getLast? ≠ some '.' → ∀ n, (row n).suffix = p.suffix)) ∧
    (p.name = [] → candidate p 0 = .ok p ∧ candidate p 1 = .error (.emptyName p)) := by
  constructor
  · intro hname
    choose row hrow using exists_candidate hname
    have hinjective : Function.Injective row := by
      intro n m h
      have hm := hrow m
      rw [← h] at hm
      exact candidate_inj (hrow n) hm
    have hfirst : row 0 = p := (Except.ok.inj (hrow 0)).symm
    exact ⟨row, hrow, hinjective, hfirst, fun n => candidate_parent (hrow n),
      fun n => candidate_ends (hrow n), fun n m h => size_candidate_mono h (hrow n) (hrow m),
      fun hlast n => candidate_suffix hname hlast (hrow n)⟩
  · intro hname
    exact ⟨rfl, if_pos hname⟩

/-- An archive with two dots in its name. -/
def tarball : Path := .ofText "out/shop.tar.gz".toList

/-- The hundredth number goes in before the last dot. -/
theorem tarball_numbered : tarball.name ≠ [] ∧ tarball.name.getLast? ≠ some '.' ∧
    ∃ q, candidate tarball 100 = .ok q ∧ q.name = "shop.tar (100).gz".toList ∧ q ≠ tarball ∧
      q.parent = .ofText "out".toList ∧ q.suffix = ".gz".toList := by
  have hname : tarball.name ≠ [] := by decide
  have hlast : tarball.name.getLast? ≠ some '.' := by decide
  obtain ⟨row, hrow, hinjective, hfirst, hparent, -, -, hsuffix⟩ :=
    (candidates_never_repeat tarball).1 hname
  refine ⟨hname, hlast, row 100, hrow 100, ?_, ?_, ?_, ?_⟩
  · rw [candidate_name (hrow 100)]
    decide
  · rw [← hfirst]
    exact hinjective.ne (by decide)
  · rw [hparent 100]
    decide
  · rw [hsuffix hlast 100]
    decide

/-- A dot at the end of a name becomes one inside, and then a suffix starts at it. -/
example : (candidate (.ofText "a.".toList) 1).map Path.suffix = .ok ". (1)".toList := by decide

end Archive
end Courier
