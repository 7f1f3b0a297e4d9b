import Courier.Archive.Target
import Courier.Proofs.Archive.Candidates
import Courier.Proofs.Bytes.Boundaries
import Courier.Proofs.Tree.Names
import Mathlib.Data.Nat.Find

/-!
# Claiming the first free name

The candidates of a path are pairwise distinct names in one folder, so one of them is free, and
the search for it ends there: each one before is refused as one that exists, and is passed
over. The first free one is claimed unless it is too long, be it the name itself or
the path to it; then nothing is.

Key definition: `Archive.IsFirstFree`.
Key theorems: `Archive.exists_isFirstFree`, `Archive.claimFrom_passing`,
`Archive.claim_takes_first_free`.
-/

namespace Courier.Archive

variable {t : Tree} {temp wanted p q : Path} {bytes : Bytes} {folder : Route} {k n : ℕ}

/-- The path is the candidate of the given number, and leads to nothing, while each
candidate before it leads to something. -/
structure IsFirstFree (t : Tree) (wanted : Path) (k : ℕ) (p : Path) : Prop where
  candidate : candidate wanted k = .ok p
  vacant : t.Vacant p
  taken : ∀ j < k, ∃ q, Archive.candidate wanted j = .ok q ∧ t.Taken q

/-! ### The candidates in their folder -/

/-- The wanted path has a name without the null character, in a folder that stands at the route. -/
structure WantedIn (t : Tree) (wanted : Path) (folder : Route) : Prop where
  proper : wanted.Proper
  named : wanted.name ≠ []
  noNull : Tree.hasNull wanted = false
  route : t.route wanted.parent = .ok folder
  entry : t.entry? folder = some .folder

/-- Every candidate of a wanted path is wanted in the same folder. -/
theorem WantedIn.candidate (h : WantedIn t wanted folder) (hq : candidate wanted n = .ok q) :
    WantedIn t q folder := by
  have hparent := candidate_parent hq
  obtain ⟨hown, hfree⟩ := (Tree.hasNull_beside (parts_ne_nil h.named)).mp h.noNull
  have hnames : q.name ≠ [] ∧ '\x00' ∉ q.name := by
    rw [candidate_name hq]
    by_cases hn : n = 0
    · rw [if_pos hn]
      exact ⟨h.named, hfree⟩
    · rw [if_neg hn]
      refine ⟨List.ne_nil_of_mem (space_mem_numbered n), fun hmem => ?_⟩
      rcases mem_numbered hmem with hmem | hmem | hmem | hmem | hmem
      · exact hfree hmem
      all_goals exact absurd hmem (by decide)
  refine ⟨candidate_proper h.proper hq, hnames.1, ?_, by rw [hparent]; exact h.route, h.entry⟩
  rw [Tree.hasNull_beside (parts_ne_nil hnames.1), hparent]
  exact ⟨hown, hnames.2⟩

/-- Some candidate is free, and so there is a first free one. -/
theorem exists_isFirstFree (h : WantedIn t wanted folder) :
    ∃ k p, k ≤ t.entries.length + 1 ∧ IsFirstFree t wanted k p := by
  obtain ⟨m, hm, hnone⟩ := t.exists_vacant (f := fun m => numbered wanted (m + 1) :: folder)
    (fun i j hij => by simpa using numbered_injective wanted (List.cons.inj hij).1) (by simp)
  -- the numbered name that nothing in the folder has leads nowhere
  have hfree : ∃ k ≤ t.entries.length + 1, ∃ p, candidate wanted k = .ok p ∧ t.Vacant p := by
    obtain ⟨p, hp⟩ := exists_candidate h.named (m + 1)
    refine ⟨m + 1, by omega, p, hp, fun r hr => ?_⟩
    have hin := h.candidate hp
    have hname : p.name = numbered wanted (m + 1) := by
      rw [candidate_name hp, if_neg (by simp)]
    have hup : p.name ≠ Path.up := by
      intro hup
      have hspace := space_mem_numbered (p := wanted) (m + 1)
      rw [← hname, hup] at hspace
      exact absurd hspace (by decide)
    rw [Tree.route_in_folder (parts_ne_nil hin.named) hup hin.route hr, hname]
    exact hnone
  classical
  obtain ⟨hle, p, hp, hvacant⟩ := Nat.find_spec hfree
  refine ⟨Nat.find hfree, p, hle, hp, hvacant, fun j hj => ?_⟩
  obtain ⟨q, hq⟩ := exists_candidate h.named j
  refine ⟨q, hq, (Tree.taken_iff (h.candidate hq).noNull).mpr fun hvacant' => ?_⟩
  exact Nat.find_min hfree hj ⟨by omega, q, hq, hvacant'⟩

/-- There is one first free candidate only. -/
theorem IsFirstFree.unique (h : WantedIn t wanted folder) {k' : ℕ} {p' : Path}
    (hp : IsFirstFree t wanted k p) (hp' : IsFirstFree t wanted k' p') : k = k' := by
  have hnot :
      ∀ {i j : ℕ} {a b : Path}, IsFirstFree t wanted i a → IsFirstFree t wanted j b → ¬i < j := by
    intro i j a b ha hb hlt
    obtain ⟨q, hq, htaken⟩ := hb.taken i hlt
    obtain rfl : a = q := Except.ok.inj (ha.candidate.symm.trans hq)
    exact (Tree.taken_iff (h.candidate hq).noNull).mp htaken ha.vacant
  have hle := hnot hp hp'
  have hge := hnot hp' hp
  omega

/-! ### The search -/

/-- Candidates that are taken are passed over, one after another. The induction is on how
many there are. -/
theorem claimFrom_passing : ∀ {d n : ℕ} (tries : ℕ),
    (∀ j, n ≤ j → j < n + d → ∃ q, candidate wanted j = .ok q ∧
      t.link temp q.text = .error (Tree.refuseBoth temp q.text .exists)) →
    claimFrom temp wanted (d + tries) n t = claimFrom temp wanted tries (n + d) t
  | 0, n, tries, _ => by rw [Nat.zero_add, Nat.add_zero]
  | d + 1, n, tries, h => by
    obtain ⟨q, hq, hlink⟩ := h n (Nat.le_refl n) (by omega)
    have hrest := claimFrom_passing (d := d) (n := n + 1) tries
      fun j hj hj' => h j (by omega) (by omega)
    calc claimFrom temp wanted (d + 1 + tries) n t
      _ = claimFrom temp wanted (d + tries + 1) n t := by rw [Nat.add_right_comm]
      _ = claimFrom temp wanted (d + tries) (n + 1) t := by
        rw [claimFrom]
        simp only [hq, hlink, Tree.refuseBoth]
      _ = claimFrom temp wanted tries (n + (d + 1)) t := by
        rw [hrest, Nat.add_assoc, Nat.add_comm 1 d]

section Search

variable {s : Route} {e : Entry} (hw : WantedIn t wanted folder) (hnull : Tree.hasNull temp = false)
  (hs : t.route temp = .ok s) (he : t.entry? s = some e) (h : IsFirstFree t wanted k p)
  {tries : ℕ} (htries : k < tries)

include hw hnull hs he h htries

/-- With more tries than there are taken candidates, the search comes to the first free one. -/
theorem claimFrom_first : ∃ left, claimFrom temp wanted tries 0 t =
    claimFrom temp wanted (left + 1) k t := by
  have hpassed : claimFrom temp wanted (k + (tries - k)) 0 t =
      claimFrom temp wanted (tries - k) (0 + k) t := by
    refine claimFrom_passing _ fun j _ hj => ?_
    obtain ⟨q, hq, htaken⟩ := h.taken j (by omega)
    have hin := hw.candidate hq
    exact ⟨q, hq, Tree.link_taken hin.proper (parts_ne_nil hin.named) hin.noNull hin.route hin.entry
      hnull hs he htaken⟩
  refine ⟨tries - k - 1, ?_⟩
  rw [Nat.sub_add_cancel (by omega)]
  rwa [Nat.add_sub_cancel' (Nat.le_of_lt htries), Nat.zero_add] at hpassed

/-- The first free candidate, if it is not too long, becomes a second name. -/
theorem claimFrom_of_fits (hb : t.Based) (hfits : Tree.Fits p) :
    claimFrom temp wanted tries 0 t = (.ok p, t.put (p.name :: folder) e) ∧
      t.route p = .ok (p.name :: folder) ∧ t.entry? (p.name :: folder) = none := by
  have hin := hw.candidate h.candidate
  obtain ⟨hroute, hlink⟩ := Tree.link_vacant hin.proper (parts_ne_nil hin.named) hin.noNull
    hin.route hin.entry hnull hs he hb hfits h.vacant
  obtain ⟨left, hsearch⟩ := claimFrom_first hw hnull hs he h htries
  refine ⟨?_, hroute, h.vacant _ hroute⟩
  rw [hsearch, claimFrom]
  simp only [h.candidate, hlink]

/-- The first free candidate, if it is too long, ends the search with nothing linked. -/
theorem claimFrom_of_unfit (hfits : ¬Tree.Fits p) : claimFrom temp wanted tries 0 t =
    (.error (Tree.refuseBoth temp p.text .nameTooLong), t) := by
  have hin := hw.candidate h.candidate
  have hlink := Tree.link_unfit hin.proper (parts_ne_nil hin.named) hin.noNull hin.route hin.entry
    hnull hs he hfits
  obtain ⟨left, hsearch⟩ := claimFrom_first hw hnull hs he h htries
  rw [hsearch, claimFrom]
  simp only [h.candidate, hlink, Tree.refuseBoth]

end Search

/-- A name with a null character is refused at once. -/
theorem claimFrom_null (hmem : '\x00' ∈ wanted.name) (tries : ℕ) :
    claimFrom temp wanted (tries + 1) 0 t = (.error .nullCharacter, t) := by
  have hname : wanted.name ≠ [] := List.ne_nil_of_mem hmem
  have hpart : wanted.name ∈ wanted.parts := by
    rw [Path.parts_eq_parent_name (parts_ne_nil hname)]
    exact List.mem_append_right _ (List.mem_singleton_self _)
  have hlink : t.link temp wanted.text = .error .nullCharacter :=
    if_pos (by simp [Path.mem_text_of_mem hmem hpart])
  rw [claimFrom]
  simp only [candidate, hlink]

/-- **The first free name is claimed.** In a folder that stands, some candidate of a wanted name
is the first free one, and the search ends there, however many tries it has left: where
neither the name nor the path of it is too long, it becomes a second link to the temporary
file, and else it is refused as too long and nothing is linked. A wanted name with a null
character is refused at once. -/
theorem claim_takes_first_free (hb : t.Based) (htemp : t.read temp = .ok bytes)
    (hw : wanted.Proper) (hname : wanted.name ≠ []) (hfolder : t.isFolder? wanted.parent = .ok true) :
    ('\x00' ∈ wanted.name →
      ∀ tries, claimFrom temp wanted (tries + 1) 0 t = (.error .nullCharacter, t)) ∧
    ('\x00' ∉ wanted.name →
      (∃ k p, k ≤ t.entries.length + 1 ∧ IsFirstFree t wanted k p) ∧
      ∀ k p, IsFirstFree t wanted k p →
        (∀ tries, k < tries → claimFrom temp wanted tries 0 t = claim temp wanted t) ∧
        (Tree.Fits p → ∃ s n r t', t.route temp = .ok s ∧ t.entry? s = some (.file n bytes) ∧
          claim temp wanted t = (.ok p, t') ∧ t'.route p = .ok r ∧
          Tree.Added r (.file n bytes) t t') ∧
        (¬Tree.Fits p →
          claim temp wanted t = (.error (Tree.refuseBoth temp p.text .nameTooLong), t))) := by
  obtain ⟨hnull, s, n, hs, he⟩ := Tree.read_eq_ok.mp htemp
  obtain ⟨hparent, folder, hroute, hentry⟩ := Tree.isFolder?_eq_true.mp hfolder
  refine ⟨fun hmem tries => claimFrom_null hmem tries, fun hfree => ?_⟩
  have hin : WantedIn t wanted folder := by
    have hnone := (Tree.hasNull_beside (parts_ne_nil hname)).mpr ⟨hparent, hfree⟩
    exact ⟨hw, hname, hnone, hroute, hentry⟩
  obtain ⟨k', p', hle, hp'⟩ := exists_isFirstFree hin
  refine ⟨⟨k', p', hle, hp'⟩, fun k p hp => ?_⟩
  have hclaim : k < t.entries.length + 2 := by
    have hsame := hp.unique hin hp'
    omega
  by_cases hfits : Tree.Fits p
  · have hfound := fun tries (htries : k < tries) =>
      claimFrom_of_fits hin hnull hs he hp htries hb hfits
    obtain ⟨hrun, hroute', hvacant⟩ := hfound _ hclaim
    have hadded := Tree.added_put hvacant (.file n bytes)
    refine ⟨fun tries htries => ((hfound tries htries).1).trans hrun.symm, fun _ => ?_,
      fun hunfit => absurd hfits hunfit⟩
    exact ⟨s, n, _, _, hs, he, hrun, hadded.keptIn.route hroute', hadded⟩
  · have hrefused := fun tries (htries : k < tries) =>
      claimFrom_of_unfit hin hnull hs he hp htries hfits
    refine ⟨fun tries htries => (hrefused tries htries).trans (hrefused _ hclaim).symm,
      fun hfits' => absurd hfits' hfits, fun _ => hrefused _ hclaim⟩

/-- A folder in which a file and a folder have the first two names of an archive. -/
def crowded : Tree where
  entries := [(["out".toList], .folder), (["v.zip".toList, "out".toList], .file 1 []),
    (["v (1).zip".toList, "out".toList], .folder), (["temp".toList], .file 2 [80, 75])]
  base := []
  seed := 0
  limit := 974

theorem crowded_isFirstFree : IsFirstFree crowded (.ofText "out/v.zip".toList) 2
    (.ofText "out/v (2).zip".toList) where
  candidate := by rfl
  vacant := by
    have hroute : crowded.route (.ofText "out/v (2).zip".toList) =
        .ok ["v (2).zip".toList, "out".toList] := by rfl
    intro r hr
    obtain rfl := Except.ok.inj (hroute.symm.trans hr)
    decide +kernel
  taken := by
    intro j hj
    match j, hj with
    | 0, _ => exact ⟨_, rfl, .file 1 [], by rfl⟩
    | 1, _ => exact ⟨.ofText "out/v (1).zip".toList, by rfl, .folder, by rfl⟩

/-- Beside two names that are taken, the third one is claimed. -/
theorem claim_beside_taken_names : ∃ n r t',
    claim (.ofText "temp".toList) (.ofText "out/v.zip".toList) crowded =
        (.ok (.ofText "out/v (2).zip".toList), t') ∧
      t'.route (.ofText "out/v (2).zip".toList) = .ok r ∧
      Tree.Added r (.file n [80, 75]) crowded t' := by
  have hclaim := (claim_takes_first_free (⟨by rfl, by rfl, by rfl⟩ : crowded.Based)
    (by rfl : crowded.read (.ofText "temp".toList) = .ok [80, 75])
    (Path.proper_ofText "out/v.zip".toList) (by decide +kernel) (by rfl)).2 (by decide +kernel)
  obtain ⟨-, hfits, -⟩ := hclaim.2 2 _ crowded_isFirstFree
  obtain ⟨s, n, r, t', -, -, hrun, hroute, hadded⟩ := hfits ⟨by decide +kernel, by decide +kernel⟩
  exact ⟨n, r, t', hrun, hroute, hadded⟩

/-! ### Paths that are too long -/

/-- So many ways into a folder and out of it again. -/
def detours (n : ℕ) : List Text := (List.replicate n ["a".toList, Path.up]).flatten

/-- A name in the folder, to which the path comes by detours. -/
def roundabout (n : ℕ) : Path := ⟨0, detours n ++ ["a".toList, "archive.zip".toList]⟩

/-- A folder, and a temporary file beside it. -/
def spacious : Tree := ⟨[(["a".toList], .folder), (["temp".toList], .file 1 [])], [], 0, 974⟩

theorem detours_succ (n : ℕ) : detours (n + 1) = "a".toList :: Path.up :: detours n := rfl

/-- Detours lead back to where they start. -/
theorem locate_detours (cs : List Text) : ∀ n : ℕ,
    Tree.locate spacious [] (detours n ++ cs) = Tree.locate spacious [] cs
  | 0 => rfl
  | n + 1 => by
    have hfolder : spacious.entry? ["a".toList] = some .folder := by decide +kernel
    have hname : "a".toList ≠ Path.up ∧ ¬maxNameSize < Utf8.size "a".toList := by decide +kernel
    rw [detours_succ, List.cons_append, List.cons_append, Tree.locate, Tree.entry?_root]
    simp only [if_neg hname.1, if_neg hname.2]
    rw [Tree.locate, hfolder]
    simp only [List.tail_cons]
    exact locate_detours cs n

/-- Each detour makes the path five bytes longer. -/
theorem size_detours {cs : List Text} (hne : cs ≠ []) : ∀ n : ℕ,
    Utf8.size (['/'].intercalate (detours n ++ cs)) = 5 * n + Utf8.size (['/'].intercalate cs)
  | 0 => by rw [Nat.mul_zero, Nat.zero_add]; rfl
  | n + 1 => by
    have hrest : detours n ++ cs ≠ [] := by simp [hne]
    have hway : ['/'].intercalate (detours (n + 1) ++ cs) =
        "a/../".toList ++ ['/'].intercalate (detours n ++ cs) := by
      rw [detours_succ, List.cons_append, List.cons_append, List.intercalate_cons_cons,
        List.intercalate_cons_of_ne_nil hrest]
      rfl
    have hsize : Utf8.size "a/../".toList = 5 := by decide +kernel
    rw [hway, Utf8.size_append, hsize, size_detours hne n]
    omega

theorem mem_roundabout {c : Text} (hc : c ∈ (roundabout n).parts) :
    c = "a".toList ∨ c = Path.up ∨ c = "archive.zip".toList := by
  rcases List.mem_append.mp hc with hc | hc
  · obtain ⟨detour, hdetour, hc⟩ := List.mem_flatten.mp hc
    rw [List.eq_of_mem_replicate hdetour] at hc
    simp only [List.mem_cons, List.not_mem_nil, or_false] at hc
    exact hc.imp_right Or.inl
  · simp only [List.mem_cons, List.not_mem_nil, or_false] at hc
    exact hc.imp_right Or.inr

theorem parent_roundabout (n : ℕ) : (roundabout n).parent = ⟨0, detours n ++ ["a".toList]⟩ := by
  simp [roundabout, Path.parent]

theorem name_roundabout (n : ℕ) : (roundabout n).name = "archive.zip".toList := by
  simp [roundabout, Path.name]

/-- The path to the folder is a name shorter than the path to the archive. -/
theorem size_roundabout (n : ℕ) : Utf8.size (roundabout n).parent.text = 5 * n + 1 ∧
    Utf8.size (roundabout n).text = 5 * n + 13 := by
  have hends : Utf8.size (['/'].intercalate ["a".toList]) = 1 ∧
      Utf8.size (['/'].intercalate ["a".toList, "archive.zip".toList]) = 13 := by decide +kernel
  constructor
  · rw [parent_roundabout, Path.text_eq (by simp)]
    show Utf8.size (['/'].intercalate (detours n ++ ["a".toList])) = 5 * n + 1
    rw [size_detours (by simp), hends.1]
  · rw [Path.text_eq (by simp [roundabout])]
    show Utf8.size (['/'].intercalate (detours n ++ ["a".toList, "archive.zip".toList])) = 5 * n + 13
    rw [size_detours (by simp), hends.2]

theorem roundabout_wantedIn (hn : 5 * n + 1 ≤ maxPathSize) :
    WantedIn spacious (roundabout n) ["a".toList] where
  proper := by
    intro c hc
    rcases mem_roundabout hc with rfl | rfl | rfl
    · exact ⟨by decide, by decide⟩
    · exact ⟨by decide, by decide⟩
    · exact ⟨by decide, by decide⟩
  named := by
    rw [name_roundabout]
    decide
  noNull := by
    refine List.any_eq_false.mpr fun c hc => ?_
    rcases mem_roundabout hc with rfl | rfl | rfl <;> decide
  route := by
    refine Tree.route_eq_ok.mpr ⟨?_, ?_⟩
    · rwa [(size_roundabout n).1]
    · rw [parent_roundabout]
      show Tree.locate spacious [] (detours n ++ ["a".toList]) = .ok ["a".toList]
      rw [locate_detours]
      rfl
  entry := by decide +kernel

/-- A first free name is not always claimed, even if it is short: the path to it may be too long. -/
theorem claim_stops_at_long_path : ¬∀ (t : Tree) (temp wanted : Path) (bytes : Bytes),
    t.Based → t.read temp = .ok bytes → wanted.Proper → wanted.name ≠ [] →
    '\x00' ∉ wanted.name → t.isFolder? wanted.parent = .ok true → ∀ k p, IsFirstFree t wanted k p →
    Utf8.size p.name ≤ maxNameSize → ∃ t', claim temp wanted t = (.ok p, t') := by
  intro h
  -- the folder is found at the end of 817 detours, but no name in it is
  obtain ⟨n, hparent, hlong⟩ : ∃ n, 5 * n + 1 ≤ maxPathSize ∧ maxPathSize < 5 * n + 13 :=
    ⟨817, by decide, by decide⟩
  have hin := roundabout_wantedIn hparent
  have hunfit : ¬Utf8.size (roundabout n).text ≤ maxPathSize := by
    rw [(size_roundabout n).2]
    omega
  have hfirst : IsFirstFree spacious (roundabout n) 0 (roundabout n) :=
    ⟨rfl, fun r hr => absurd (Tree.route_eq_ok.mp hr).1 hunfit,
      fun j hj => absurd hj (Nat.not_lt_zero j)⟩
  have htemp : spacious.read (.ofText "temp".toList) = .ok [] := by rfl
  have hfolder : spacious.isFolder? (roundabout n).parent = .ok true := by
    have hnone := (Tree.hasNull_beside (parts_ne_nil hin.named)).mp hin.noNull
    exact Tree.isFolder?_eq_true.mpr ⟨hnone.1, _, hin.route, hin.entry⟩
  obtain ⟨t', hclaimed⟩ := h spacious (.ofText "temp".toList) (roundabout n) []
    ⟨by rfl, by rfl, by rfl⟩ htemp hin.proper hin.named (by rw [name_roundabout]; decide) hfolder
    0 _ hfirst (by rw [name_roundabout]; decide +kernel)
  obtain ⟨hnull, s, m, hs, he⟩ := Tree.read_eq_ok.mp htemp
  have hrefused := claimFrom_of_unfit hin hnull hs he hfirst (Nat.zero_lt_succ 3)
    fun hfits => hunfit hfits.2
  exact error_ne_ok (hrefused.symm.trans hclaimed)

end Courier.Archive
