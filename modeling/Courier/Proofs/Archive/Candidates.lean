import Courier.Archive.Name
import Courier.Proofs.Path.Proper
import Courier.Proofs.Text.Digits

/-!
# Safe names and the candidates made from them

A safe name is one component of a path that no system reads as more than one,
and that is worth being a name. The name made from what a server sends is safe
whenever the fallback is, and putting a number into a safe name gives a safe
name. All candidates of a path stand in the same folder.

Key definitions: `Archive.IsSafe`, `Archive.IsLastComponent`.
Key theorems: `Archive.safeName_isSafe`, `Archive.numbered_isSafe`, `Archive.candidate_parent`,
`Archive.isLastComponent_iff`.
-/

namespace Courier.Archive

variable {p q : Path}

/-- A name without separators and without white space at its ends that names
neither nothing nor a folder by dots. -/
structure IsSafe (name : Text) : Prop where
  noSlash : '/' ∉ name
  noBackslash : '\\' ∉ name
  trimmed : Text.IsTrimmed name
  ne_nil : name ≠ []
  ne_dot : name ≠ ['.']
  ne_up : name ≠ Path.up

theorem IsSafe.isPart {name : Text} (h : IsSafe name) : Path.IsPart name :=
  ⟨Path.isComponent_iff.mpr ⟨h.ne_nil, h.ne_dot⟩, h.noSlash⟩

/-- A safe name spells the path that consists of it. -/
theorem IsSafe.ofText {name : Text} (h : IsSafe name) : Path.ofText name = ⟨0, [name]⟩ := by
  have hsplit : Text.splitOn '/' name = [name] := by
    rw [Text.splitOn_eq, List.splitOn_eq_singleton h.noSlash]
  have hlead : (name.takeWhile (· == '/')).length = 0 := by
    cases hn : name with
    | nil => exact absurd hn h.ne_nil
    | cons c cs =>
      have hc : c ≠ '/' := fun he => h.noSlash (by simp [hn, he])
      simp [hc]
  unfold Path.ofText
  rw [hsplit, hlead, List.filter_cons_of_pos h.isPart.isComponent, List.filter_nil]
  rfl

/-! ### The name that a server sends -/

/-- The text is what stands last between the separators of a file name, where
empty pieces and single dots do not count. A backslash separates as a slash does. -/
def IsLastComponent (fileName c : Text) : Prop :=
  c ≠ [] ∧ c ≠ ['.'] ∧ ∃ before after : List Text,
    fileName.map slashed = ['/'].intercalate (before ++ c :: after) ∧
    (∀ piece ∈ before ++ c :: after, '/' ∉ piece) ∧ ∀ piece ∈ after, piece = [] ∨ piece = ['.']

theorem slashed_ne_backslash (c : Char) : slashed c ≠ '\\' := by
  unfold slashed
  by_cases h : c = '\\'
  · rw [if_pos h]
    decide
  · rwa [if_neg h]

theorem backslash_not_mem_slashed (t : Text) : '\\' ∉ t.map slashed := by
  intro h
  obtain ⟨c, -, hc⟩ := List.mem_map.mp h
  exact slashed_ne_backslash c hc

theorem getLast?_filter_eq_some {α : Type} {keep : α → Bool} {l : List α} {a : α} :
    (l.filter keep).getLast? = some a ↔
      keep a = true ∧ ∃ before after, l = before ++ a :: after ∧ ∀ b ∈ after, keep b = false := by
  rw [List.getLast?_filter, List.find?_eq_some_iff_append]
  constructor
  · rintro ⟨ha, after, before, hl, hafter⟩
    refine ⟨ha, before.reverse, after.reverse, ?_, fun b hb => ?_⟩
    · rw [← List.reverse_reverse l, hl]
      simp
    · simpa using hafter b (List.mem_reverse.mp hb)
  · rintro ⟨ha, before, after, rfl, hafter⟩
    refine ⟨ha, after.reverse, before.reverse, by simp, fun b hb => ?_⟩
    simpa using hafter b (List.mem_reverse.mp hb)

/-- Reading a file name as a path, backslashes as slashes, finds its last component. -/
theorem isLastComponent_iff {fileName c : Text} : IsLastComponent fileName c ↔
    (Path.ofText (fileName.map slashed)).parts.getLast? = some c := by
  rw [Path.ofText, getLast?_filter_eq_some, Path.isComponent_iff]
  constructor
  · rintro ⟨hnil, hdot, before, after, hjoin, hslash, hafter⟩
    refine ⟨⟨hnil, hdot⟩, before, after, ?_, fun piece hp => ?_⟩
    · rw [hjoin, Text.splitOn_intercalate '/' (by simp) hslash]
    · rcases hafter piece hp with rfl | rfl <;> rfl
  · rintro ⟨⟨hnil, hdot⟩, before, after, hsplit, hafter⟩
    refine ⟨hnil, hdot, before, after, ?_, fun piece hp => ?_, fun piece hp => ?_⟩
    · rw [← hsplit, Text.intercalate_splitOn]
    · exact Text.not_mem_of_mem_splitOn '/' _ (hsplit ▸ hp)
    · have hcomp := hafter piece hp
      by_contra hne
      rw [not_or] at hne
      rw [Path.isComponent_iff.mpr hne] at hcomp
      exact absurd hcomp (by simp)

/-- The trimmed last component of a file name that has one. -/
theorem lastComponent_eq {fileName c : Text} (h : IsLastComponent fileName c) :
    lastComponent fileName = Text.trim c := by
  rw [lastComponent, Path.name, isLastComponent_iff.mp h, Option.getD_some]

theorem lastComponent_eq_nil {fileName : Text} (h : ∀ c, ¬IsLastComponent fileName c) :
    lastComponent fileName = [] := by
  have hnone : (Path.ofText (fileName.map slashed)).parts.getLast? = none := by
    cases hl : (Path.ofText (fileName.map slashed)).parts.getLast? with
    | none => rfl
    | some c => exact absurd (isLastComponent_iff.mpr hl) (h c)
  rw [lastComponent, Path.name, hnone]
  rfl

theorem isUnusable_iff {name : Text} :
    isUnusable name = true ↔ name = [] ∨ name = ['.'] ∨ name = Path.up := by
  simp [isUnusable, or_assoc]

/-- The name that a file name and a fallback give: the trimmed last component of
the file name if it has one worth being a name, and the fallback else. -/
def Gives (fileName fallback name : Text) : Prop :=
  (∃ c, IsLastComponent fileName c ∧ name = Text.trim c ∧ name ≠ [] ∧ name ≠ ['.'] ∧ name ≠ Path.up) ∨
    (∀ c, IsLastComponent fileName c → Text.trim c = [] ∨ Text.trim c = ['.'] ∨ Text.trim c = Path.up) ∧
      name = fallback

theorem safeName_gives (fileName fallback : Text) :
    Gives fileName fallback (safeName fileName fallback) := by
  unfold safeName
  by_cases hun : isUnusable (lastComponent fileName) = true
  · rw [if_pos hun]
    refine Or.inr ⟨fun c hc => ?_, rfl⟩
    rw [← lastComponent_eq hc]
    exact isUnusable_iff.mp hun
  · rw [if_neg hun]
    have huse := mt isUnusable_iff.mpr hun
    rw [not_or, not_or] at huse
    by_cases hex : ∃ c, IsLastComponent fileName c
    · obtain ⟨c, hc⟩ := hex
      exact Or.inl ⟨c, hc, lastComponent_eq hc, huse⟩
    · exact absurd (lastComponent_eq_nil (not_exists.mp hex)) huse.1

theorem lastComponent_noSeparator (fileName : Text) :
    '/' ∉ lastComponent fileName ∧ '\\' ∉ lastComponent fileName := by
  by_cases hex : ∃ c, IsLastComponent fileName c
  · obtain ⟨c, hc⟩ := hex
    have hmem := List.mem_of_getLast? (isLastComponent_iff.mp hc)
    have hpart := Path.proper_ofText _ c hmem
    rw [lastComponent_eq hc]
    refine ⟨fun h => hpart.noSlash (Text.mem_of_mem_trim h), fun h => ?_⟩
    exact backslash_not_mem_slashed fileName
      (Text.mem_of_mem_splitOn (List.mem_of_mem_filter hmem) (Text.mem_of_mem_trim h))
  · rw [lastComponent_eq_nil (not_exists.mp hex)]
    exact ⟨List.not_mem_nil, List.not_mem_nil⟩

/-- A name that is not the fallback is safe, whatever the fallback is. -/
theorem safeName_cases (fileName fallback : Text) :
    safeName fileName fallback = fallback ∨ IsSafe (safeName fileName fallback) := by
  unfold safeName
  by_cases hun : isUnusable (lastComponent fileName) = true
  · rw [if_pos hun]
    exact .inl rfl
  · rw [if_neg hun]
    have huse := mt isUnusable_iff.mpr hun
    rw [not_or, not_or] at huse
    obtain ⟨hslash, hback⟩ := lastComponent_noSeparator fileName
    exact .inr ⟨hslash, hback, Text.trim_isTrimmed _, huse.1, huse.2.1, huse.2.2⟩

/-- **The name made from what a server sends is safe if the fallback is.** -/
theorem safeName_isSafe (fileName : Text) {fallback : Text} (h : IsSafe fallback) :
    IsSafe (safeName fileName fallback) := by
  rcases safeName_cases fileName fallback with hname | hsafe
  · rwa [hname]
  · exact hsafe

theorem IsSafe.isLastComponent {name : Text} (h : IsSafe name) : IsLastComponent name name := by
  have hslashed : name.map slashed = name := by
    refine (List.map_congr_left fun c hc => ?_).trans (List.map_id name)
    have hne : c ≠ '\\' := fun he => h.noBackslash (he ▸ hc)
    exact if_neg hne
  refine ⟨h.ne_nil, h.ne_dot, [], [], ?_, ?_, fun piece hp => absurd hp List.not_mem_nil⟩
  · rw [hslashed]
    simp
  · intro piece hp
    rw [List.mem_singleton.mp hp]
    exact h.noSlash

/-- A safe name is taken as it is. -/
theorem safeName_of_isSafe {name : Text} (h : IsSafe name) (fallback : Text) :
    safeName name fallback = name := by
  have hlast : lastComponent name = name := by
    rw [lastComponent_eq h.isLastComponent, Text.trim_eq_self h.trimmed]
  have husable : ¬isUnusable name = true := fun hun => by
    rcases isUnusable_iff.mp hun with hn | hn | hn
    · exact h.ne_nil hn
    · exact h.ne_dot hn
    · exact h.ne_up hn
  rw [safeName, hlast, if_neg husable]

/-! ### Numbered names -/

theorem stem_append_suffix (p : Path) : p.stem ++ p.suffix = p.name := List.take_append_drop _ _

theorem stem_ne_nil (h : p.name ≠ []) : p.stem ≠ [] := by
  have hpos : 0 < Path.stemLength p.name := by
    have := List.length_pos_of_ne_nil h
    unfold Path.stemLength
    split
    · split
      · rename_i hdot
        exact hdot.1
      · exact this
    · exact this
  obtain ⟨c, cs, hn⟩ := List.exists_cons_of_ne_nil h
  obtain ⟨n, hl⟩ := Nat.exists_eq_succ_of_ne_zero (Nat.ne_of_gt hpos)
  rw [Path.stem, hl, hn]
  simp

/-- A numbered name holds no other characters than the name, the space, the brackets and digits. -/
theorem mem_numbered {n : ℕ} {a : Char} (h : a ∈ numbered p n) :
    a ∈ p.name ∨ a = ' ' ∨ a = '(' ∨ a = ')' ∨ a.isDigit = true := by
  have hname : ∀ b, b ∈ p.stem ∨ b ∈ p.suffix → b ∈ p.name := fun b hb => by
    rw [← stem_append_suffix p]
    exact List.mem_append.mpr hb
  simp only [numbered, List.mem_append] at h
  rcases h with (((h | h) | h) | h) | h
  · exact Or.inl (hname a (Or.inl h))
  · have : a = ' ' ∨ a = '(' := by simpa using h
    exact Or.inr (this.imp_right Or.inl)
  · exact Or.inr (Or.inr (Or.inr (Or.inr (Nat.isDigit_of_mem_toDigits (by decide) (by decide) h))))
  · exact Or.inr (Or.inr (Or.inr (Or.inl (List.mem_singleton.mp h))))
  · exact Or.inl (hname a (Or.inr h))

/-- A numbered name starts as the name does. -/
theorem head?_numbered (h : p.name ≠ []) (n : ℕ) : (numbered p n).head? = p.name.head? := by
  obtain ⟨c, cs, hs⟩ := List.exists_cons_of_ne_nil (stem_ne_nil h)
  rw [← stem_append_suffix p, numbered, hs]
  rfl

/-- A numbered name ends as the name does, or with the bracket after its number. -/
theorem getLast?_numbered (n : ℕ) :
    (numbered p n).getLast? = some ')' ∨ (numbered p n).getLast? = p.name.getLast? := by
  by_cases hs : p.suffix = []
  · left
    rw [numbered, hs, List.append_nil]
    exact List.getLast?_concat
  · right
    rw [numbered, List.getLast?_append_of_ne_nil _ hs, ← stem_append_suffix p,
      List.getLast?_append_of_ne_nil _ hs]

theorem space_mem_numbered (n : ℕ) : ' ' ∈ numbered p n := by simp [numbered]

theorem isPart_numbered (hp : '/' ∉ p.name) (n : ℕ) : Path.IsPart (numbered p n) := by
  have hspace := space_mem_numbered (p := p) n
  refine ⟨Path.isComponent_iff.mpr ⟨List.ne_nil_of_mem hspace, ?_⟩, fun h => ?_⟩
  · intro hdot
    rw [hdot] at hspace
    exact absurd hspace (by decide)
  · rcases mem_numbered h with h | h | h | h | h
    · exact hp h
    all_goals exact absurd h (by decide)

/-- **A number put into a safe name leaves it safe.** -/
theorem numbered_isSafe (h : IsSafe p.name) (n : ℕ) : IsSafe (numbered p n) := by
  have hpart := isPart_numbered h.noSlash n
  refine ⟨hpart.noSlash, fun hmem => ?_, ⟨fun c hc => ?_, fun c hc => ?_⟩, hpart.ne_nil, hpart.ne_dot, ?_⟩
  · rcases mem_numbered hmem with hmem | hmem | hmem | hmem | hmem
    · exact h.noBackslash hmem
    all_goals exact absurd hmem (by decide)
  · rw [head?_numbered h.ne_nil] at hc
    exact h.trimmed.1 c hc
  · rcases getLast?_numbered (p := p) n with hl | hl
    · rw [hl] at hc
      rw [← Option.some.inj hc]
      decide
    · rw [hl] at hc
      exact h.trimmed.2 c hc
  · intro hup
    have hspace := space_mem_numbered (p := p) n
    rw [hup] at hspace
    exact absurd hspace (by decide)

/-- Names with distinct numbers are distinct. -/
theorem numbered_injective (p : Path) : Function.Injective (numbered p) := by
  intro n m h
  have hmiddle : Text.ofNat n ++ ([')'] ++ p.suffix) = Text.ofNat m ++ ([')'] ++ p.suffix) := by
    simpa only [numbered, List.append_assoc, List.append_cancel_left_eq] using h
  exact Text.ofNat_injective (List.append_cancel_right hmiddle)

/-! ### Candidates -/

/-- A path with a name has a candidate for every number. -/
theorem exists_candidate (hname : p.name ≠ []) (n : ℕ) : ∃ q, candidate p n = .ok q := by
  cases n with
  | zero => exact ⟨p, rfl⟩
  | succ n => exact ⟨_, if_neg hname⟩

theorem parts_ne_nil (hname : p.name ≠ []) : p.parts ≠ [] := by
  intro hnil
  exact hname (by simp [Path.name, hnil])

/-- The name of a candidate: the wanted one, or that with a number. -/
theorem candidate_name {n : ℕ} (h : candidate p n = .ok q) :
    q.name = if n = 0 then p.name else numbered p n := by
  cases n with
  | zero => rw [← Except.ok.inj h, if_pos rfl]
  | succ n =>
    rw [candidate] at h
    split at h
    · exact absurd h (by simp)
    · rw [← Except.ok.inj h, if_neg (by simp)]
      simp [Path.name, Path.withName]

theorem candidate_proper (hp : p.Proper) {n : ℕ} (h : candidate p n = .ok q) : q.Proper := by
  cases n with
  | zero =>
    rw [← Except.ok.inj h]
    exact hp
  | succ n =>
    rw [candidate] at h
    split at h
    · exact absurd h (by simp)
    · rename_i hname
      have hpart := Path.isPart_name hp (parts_ne_nil hname)
      rw [← Except.ok.inj h]
      exact Path.proper_withName hp (isPart_numbered hpart.noSlash _)

/-- Candidates stand beside each other. -/
theorem candidate_parent {n : ℕ} (h : candidate p n = .ok q) : q.parent = p.parent := by
  cases n with
  | zero => rw [← Except.ok.inj h]
  | succ n =>
    rw [candidate] at h
    split at h
    · exact absurd h (by simp)
    · rw [← Except.ok.inj h]
      simp [Path.parent, Path.withName]

theorem candidate_isSafe {n : ℕ} (hp : IsSafe p.name) (h : candidate p n = .ok q) :
    IsSafe q.name := by
  rw [candidate_name h]
  by_cases hn : n = 0
  · rw [if_pos hn]
    exact hp
  · rw [if_neg hn]
    exact numbered_isSafe hp n

end Courier.Archive
