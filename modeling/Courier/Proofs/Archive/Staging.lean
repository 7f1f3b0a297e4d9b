import Courier.Proofs.Archive.Tokens
import Courier.Proofs.Tree.Names

/-!
# The temporary file

Staging adds one file, under a name at which nothing stood, and taking it away
again leaves everything else as it is. The names of temporary files are pairwise
distinct, so there is always a free one in a folder, and each free one with a
token of the usual size is drawn from some seed.

Key definition: `Archive.Staged`.
Key theorems: `Archive.stage_iff_create`, `Archive.stage_eq_ok`, `Archive.discard_eq`,
`Archive.freeNumber_free`, `Archive.exists_seed`, `Archive.staged_of_stage`,
`Archive.exists_stage_iff`.
-/

namespace Courier.Archive

variable {t t' : Tree} {temp directory : Path} {body : Bytes}

theorem stage_eq (body : Bytes) (directory : Path) (t : Tree) : stage body directory t =
    match t.create (tempPath t directory) body with
    | .ok t' => (.ok (tempPath t directory), drawn t')
    | .error f => (.error f, t) := rfl

/-- Staging succeeds where the file can be created. -/
theorem stage_iff_create : stage body directory t = (.ok temp, t') ↔
    temp = tempPath t directory ∧ ∃ u, t.create temp body = .ok u ∧ t' = drawn u := by
  rw [stage_eq]
  constructor
  · intro h
    cases hc : t.create (tempPath t directory) body with
    | error f =>
      rw [hc] at h
      exact absurd h error_ne_ok
    | ok u =>
      rw [hc] at h
      obtain ⟨htemp, rfl⟩ := Prod.mk.inj h
      rw [← Except.ok.inj htemp]
      exact ⟨rfl, u, hc, rfl⟩
  · rintro ⟨rfl, u, hc, rfl⟩
    rw [hc]

/-- **Staging adds a file that holds the body,** and nothing else. -/
theorem stage_eq_ok (h : stage body directory t = (.ok temp, t')) :
    Tree.hasNull temp = false ∧
      ∃ r, t.route temp = .ok r ∧ Tree.Added r (.file t.freshNode body) t t' := by
  obtain ⟨-, u, hcreate, rfl⟩ := stage_iff_create.mp h
  obtain ⟨hnull, r, hr, hnone, rfl⟩ := Tree.create_eq_ok.mp hcreate
  have hadded := Tree.added_put hnone (.file t.freshNode body)
  exact ⟨hnull, r, hr, hadded.base, hadded.vacant, hadded.entry⟩

/-- Staging that fails changes nothing. -/
theorem stage_eq_error {f : Fault} (h : stage body directory t = (.error f, t')) : t' = t := by
  rw [stage_eq] at h
  cases hc : t.create (tempPath t directory) body with
  | error f' =>
    rw [hc] at h
    exact (congrArg Prod.snd h).symm
  | ok u =>
    rw [hc] at h
    exact absurd h.symm error_ne_ok

/-- Discarding takes away the file to which the path leads. -/
theorem discard_eq {r : Route} {n : ℕ} {bytes : Bytes} (hnull : Tree.hasNull temp = false)
    (hr : t.route temp = .ok r) (he : t.entry? r = some (.file n bytes)) :
    discard temp t = (.ok (), t.erase r) := by
  have hunlink : t.unlink temp = .ok (t.erase r) :=
    Tree.unlink_eq_ok.mpr ⟨hnull, r, _, hr, he, by simp, rfl⟩
  rw [discard, hunlink]

/-! ### The name of the temporary file -/

theorem tempName_injective : Function.Injective tempName := by
  intro n m h
  have htoken : token n = token m := by
    unfold tempName at h
    rw [List.append_assoc, List.append_assoc] at h
    exact List.append_cancel_right (List.append_cancel_left h)
  exact token_injective htoken

/-- The name of a temporary file starts with a dot and a letter. -/
theorem tempName_ne_up (n : ℕ) : tempName n ≠ Path.up := by
  intro h
  have hsecond : some 'c' = some '.' := congrArg (fun name : Text => name.tail.head?) h
  exact absurd hsecond (by decide)

theorem null_notMem_tempName (n : ℕ) : '\x00' ∉ tempName n := by
  have htoken : '\x00' ∉ token n := by
    intro h
    rcases mem_token h with h | h
    · exact absurd h (by decide)
    · exact absurd h (by decide)
  have hends : '\x00' ∉ ".crud-up-".toList ∧ '\x00' ∉ ".part".toList := by decide
  intro h
  rcases List.mem_append.mp h with h | h
  · exact (List.mem_append.mp h).elim hends.1 htoken
  · exact hends.2 h

/-- The search for a number comes to the first one that is free. -/
theorem entry?_freeNumber {t : Tree} {folder : Route} : ∀ {fuel n : ℕ},
    (∃ k < fuel, t.entry? (tempName (n + k) :: folder) = none) →
    t.entry? (tempName (freeNumber t folder fuel n) :: folder) = none
  | 0, n, h => by
    obtain ⟨k, hk, -⟩ := h
    exact absurd hk (Nat.not_lt_zero k)
  | fuel + 1, n, h => by
    rw [freeNumber]
    by_cases hn : (t.entry? (tempName n :: folder)).isSome = true
    · rw [if_pos hn]
      obtain ⟨k, hk, hnone⟩ := h
      cases k with
      | zero =>
        rw [Nat.add_zero] at hnone
        rw [hnone] at hn
        exact absurd hn (by simp)
      | succ k =>
        refine entry?_freeNumber ⟨k, Nat.lt_of_succ_lt_succ hk, ?_⟩
        rwa [Nat.add_assoc, Nat.add_comm 1 k]
    · rw [if_neg hn]
      simpa using hn

/-- **Some number gives a temporary name that nothing in the folder has.** -/
theorem freeNumber_free (t : Tree) (folder : Route) (n : ℕ) :
    t.entry? (tempName (freeNumber t folder (t.entries.length + 1) n) :: folder) = none := by
  obtain ⟨k, hk, hnone⟩ := t.exists_vacant (f := fun k => tempName (n + k) :: folder)
    (fun i j hij => by simpa using tempName_injective (List.cons.inj hij).1) (by simp)
  exact entry?_freeNumber ⟨k, by omega, hnone⟩

/-- **Any free name with a token of the usual size may be the one:** it is drawn from some seed. -/
theorem exists_seed (t : Tree) (directory : Path) {w : Text} (hsize : w.length = tokenSize)
    (hw : ∀ c ∈ w, c ∈ alphabet)
    (hfree : t.entry? ((".crud-up-".toList ++ w ++ ".part".toList) ::
      (Path.absolute t.basePath directory).parts.reverse) = none) :
    ∃ seed, (tempPath { t with seed := seed } directory).name =
      ".crud-up-".toList ++ w ++ ".part".toList := by
  obtain ⟨n, hn, rfl⟩ := exists_token hsize hw
  have hfirst : freeNumber { t with seed := n } (Path.absolute t.basePath directory).parts.reverse
      (t.entries.length + 1) n = n := by
    have hvacant : Tree.entry? { t with seed := n }
        (tempName n :: (Path.absolute t.basePath directory).parts.reverse) = none := hfree
    rw [freeNumber, if_neg (by rw [hvacant]; exact Bool.false_ne_true)]
  refine ⟨n, (Path.name_join_name _ _).trans ?_⟩
  rw [Nat.mod_eq_of_lt hn]
  exact congrArg tempName hfirst

theorem parent_tempPath (t : Tree) (directory : Path) :
    (tempPath t directory).parent = Path.absolute t.basePath directory := Path.parent_join_name _ _

theorem slashes_tempPath (t : Tree) (directory : Path) : (tempPath t directory).slashes ≠ 0 :=
  Path.slashes_absolute _ _ Nat.one_ne_zero

/-- The name of the temporary file is one of a number that is free in its folder. -/
theorem name_tempPath (t : Tree) (directory : Path) :
    ∃ n, (tempPath t directory).name = tempName n ∧
      t.entry? (tempName n :: (Path.absolute t.basePath directory).parts.reverse) = none :=
  ⟨_, Path.name_join_name _ _, freeNumber_free t _ _⟩

theorem parts_tempPath (t : Tree) (directory : Path) : (tempPath t directory).parts ≠ [] := by
  simp [tempPath, Path.join]

/-- A temporary file, where it can be, has the free name in the folder of its path. -/
theorem route_tempPath {r : Route} (hr : t.route (tempPath t directory) = .ok r) :
    r = (tempPath t directory).name :: (Path.absolute t.basePath directory).parts.reverse := by
  obtain ⟨n, hname, -⟩ := name_tempPath t directory
  have hparts := Path.parts_eq_parent_name (parts_tempPath t directory)
  have hup : Path.up ∉ (tempPath t directory).parts := by
    rw [hparts, parent_tempPath, hname]
    simpa [Path.up_notMem_absolute] using Ne.symm (tempName_ne_up n)
  rw [Tree.route_of_resolved (slashes_tempPath t directory) hup hr, hparts, List.reverse_append,
    parent_tempPath]
  rfl

/-! ### Where a file can be staged -/

/-- The temporary file is new in the folder of its path, holds the body, and is all that
the second tree has more than the first. That folder is the one to which the directory leads. -/
structure Staged (body : Bytes) (directory temp : Path) (t t' : Tree) : Prop where
  parent : temp.parent = Path.absolute t.basePath directory
  folder : t.isFolder? temp.parent = .ok true
  vacant : t.Vacant temp
  added : ∃ r, t'.route temp = .ok r ∧ Tree.Added r (.file t.freshNode body) t t'
  read : t'.read temp = .ok body
  inside : t.Based → ∀ here, t.route directory = .ok here → t.route temp = .ok (temp.name :: here)

/-- **What is staged is a new file in the directory,** and its folder stands. -/
theorem staged_of_stage (h : stage body directory t = (.ok temp, t')) :
    Staged body directory temp t t' := by
  obtain ⟨hnull, r, hr, hadded⟩ := stage_eq_ok h
  have hr' := hadded.keptIn.route hr
  obtain ⟨rfl, -⟩ := stage_iff_create.mp h
  refine ⟨parent_tempPath t directory, ?_, ?_, ⟨r, hr', hadded⟩, ?_, ?_⟩
  · exact Tree.isFolder?_parent (slashes_tempPath t directory) (parts_tempPath t directory) hnull hr
  · intro s hs
    obtain rfl : r = s := Except.ok.inj (hr.symm.trans hs)
    exact hadded.vacant
  · exact Tree.read_eq_ok.mpr ⟨hnull, r, _, hr', hadded.self⟩
  · intro hb here hhere
    rw [hr, route_tempPath hr, Tree.route_resolved hb.reached.up_notMem hhere]

/-- **A file can be staged in a folder that stands,** unless its path is too long, and nowhere
else. -/
theorem exists_stage_iff (body : Bytes) : (∃ temp t', stage body directory t = (.ok temp, t')) ↔
    t.isFolder? (Path.absolute t.basePath directory) = .ok true ∧
      Tree.Fits (tempPath t directory) := by
  have hne := parts_tempPath t directory
  obtain ⟨n, hname, hfree⟩ := name_tempPath t directory
  have hup : (tempPath t directory).name ≠ Path.up := hname ▸ tempName_ne_up n
  constructor
  · rintro ⟨temp, t', hstage⟩
    obtain ⟨rfl, -⟩ := stage_iff_create.mp hstage
    have hstaged := staged_of_stage hstage
    obtain ⟨hnull, r, hr, -⟩ := stage_eq_ok hstage
    exact ⟨hstaged.parent ▸ hstaged.folder,
      Tree.fits_of_route (slashes_tempPath t directory) hne hup hnull hr⟩
  · rintro ⟨hfolder, hfits⟩
    rw [← parent_tempPath] at hfolder
    obtain ⟨hnone, folder, hroute, hentry⟩ := Tree.isFolder?_eq_true.mp hfolder
    have hnull : Tree.hasNull (tempPath t directory) = false :=
      (Tree.hasNull_beside hne).mpr ⟨hnone, hname ▸ null_notMem_tempName n⟩
    have hr : t.route (tempPath t directory) = .ok ((tempPath t directory).name :: folder) := by
      rw [Tree.route_beside hne hroute hentry, if_neg (Nat.not_lt.mpr hfits.2), if_neg hup,
        if_neg (Nat.not_lt.mpr hfits.1)]
    have hvacant : t.entry? ((tempPath t directory).name :: folder) = none := by
      rw [(List.cons.inj (route_tempPath hr)).2, hname]
      exact hfree
    have hcreate : t.create (tempPath t directory) body =
        .ok (t.put ((tempPath t directory).name :: folder) (.file t.freshNode body)) :=
      Tree.create_eq_ok.mpr ⟨hnull, _, hr, hvacant, rfl⟩
    exact ⟨_, _, stage_iff_create.mpr ⟨rfl, _, hcreate, rfl⟩⟩

/-- A directory that stands is the folder in which a file is staged. -/
theorem absolute_isFolder (hb : t.Based) (hfolder : t.isFolder? directory = .ok true)
    (hfits : Tree.Fits (tempPath t directory)) :
    t.isFolder? (Path.absolute t.basePath directory) = .ok true := by
  obtain ⟨hnone, folder, hroute, hentry⟩ := Tree.isFolder?_eq_true.mp hfolder
  have hsize := Utf8.size_mono
    (Path.prefix_text_parent (slashes_tempPath t directory) (parts_tempPath t directory))
  rw [parent_tempPath] at hsize
  have hroute' := hb.route_absolute hroute (hsize.trans hfits.2)
  exact Tree.isFolder?_eq_true.mpr ⟨hb.hasNull_absolute hnone, folder, hroute', hentry⟩

end Courier.Archive
