import Courier.Proofs.Archive.Staging
import Courier.Proofs.Tree.Standing

/-!
# The temporary file is released, and nothing else

Whatever is done to a temporary file, be it linked to, moved, written to or unlinked, and
however the work on it ends, the folders stay as they are, so its path leads where it
led. In the end nothing stands there, the outcome of the work is the outcome of
the whole, and everything else is as the work left it.

Key definitions: `Archive.Deed`, `Archive.Step`, `Archive.work`, `Archive.Released`.
Key theorems: `Archive.work_sameFolders`, `Archive.discard_released`, `Archive.staged_released`.
-/

namespace Courier.Archive

variable {t t' t₁ : Tree} {temp directory : Path} {body : Bytes} {r s : Route}

/-! ### Work on the temporary file -/

/-- What may be done to the temporary file. -/
inductive Deed where
  /-- A second name is given to it. -/
  | link (name : Text)
  /-- It is moved to a name. -/
  | move (name : Text)
  /-- Bytes are added at its end. -/
  | append (more : Bytes)
  /-- It is unlinked. -/
  | unlink
  deriving DecidableEq, Repr

/-- The tree after a deed, if that succeeds. -/
def Deed.on (temp : Path) (t : Tree) : Deed → Except Fault Tree
  | .link name => t.link temp name
  | .move name => t.move temp name
  | .append more => t.append temp more
  | .unlink => t.unlink temp

/-- A step of the work. -/
inductive Step where
  /-- A deed of which a failure ends the work. -/
  | venture (d : Deed)
  /-- A deed of which a failure is passed over. -/
  | attempt (d : Deed)
  /-- A failure of any other kind, an interrupt too. -/
  | fail (f : Fault)

/-- Takes one step. -/
def Step.take (temp : Path) : Step → Act Tree Unit
  | .venture d => Tree.change fun t => d.on temp t
  | .attempt d => fun t => (.ok (), (Tree.change (fun t => d.on temp t) t).2)
  | .fail f => fun t => (.error f, t)

/-- Takes one step after another, up to the first that fails. -/
def work (temp : Path) : List Step → Act Tree Unit
  | [] => fun t => (.ok (), t)
  | step :: steps => fun t =>
    match step.take temp t with
    | (.ok (), t) => work temp steps t
    | (.error f, t) => (.error f, t)

/-! ### The folders stay -/

/-- The path leads to a route at which no folder stands. -/
def LeadsToFile (t : Tree) (p : Path) (r : Route) : Prop :=
  t.route p = .ok r ∧ t.entry? r ≠ some .folder

theorem LeadsToFile.of_added {n : ℕ} (hr : t.route temp = .ok r)
    (h : Tree.Added r (.file n body) t t₁) : LeadsToFile t₁ temp r := by
  refine ⟨h.keptIn.route hr, ?_⟩
  rw [h.self]
  simp

theorem LeadsToFile.keep (h : LeadsToFile t temp r) (hs : Tree.SameFolders t t') :
    LeadsToFile t' temp r :=
  ⟨hs.route h.1, fun hfolder => h.2 ((hs.folder r).mp hfolder)⟩

theorem Deed.sameFolders (h : LeadsToFile t temp r) {d : Deed} (hd : d.on temp t = .ok t') :
    Tree.SameFolders t t' := by
  cases d with
  | link name => exact Tree.link_sameFolders h.1 h.2 hd
  | move name => exact Tree.move_sameFolders h.1 h.2 hd
  | append more => exact Tree.update_sameFolders h.1 h.2 (f := (· ++ more)) hd
  | unlink => exact Tree.unlink_sameFolders h.1 h.2 hd

theorem change_sameFolders (h : LeadsToFile t temp r) (d : Deed) :
    Tree.SameFolders t (Tree.change (fun t => d.on temp t) t).2 := by
  cases hd : d.on temp t with
  | ok t' =>
    simp only [Tree.change, hd]
    exact d.sameFolders h hd
  | error f =>
    simp only [Tree.change, hd]
    exact .refl t

/-- A step leaves the folders standing. -/
theorem Step.sameFolders (h : LeadsToFile t temp r) (step : Step) :
    Tree.SameFolders t (step.take temp t).2 := by
  cases step with
  | venture d => exact change_sameFolders h d
  | attempt d => exact change_sameFolders h d
  | fail f => exact .refl t

/-- **Work on a temporary file leaves the folders standing,** so its path goes on leading where it
led. The induction is on the steps. -/
theorem work_sameFolders : ∀ {t : Tree} (steps : List Step), LeadsToFile t temp r →
    Tree.SameFolders t (work temp steps t).2
  | t, [], _ => .refl t
  | t, step :: steps, h => by
    have hstep := step.sameFolders h
    rcases htaken : step.take temp t with ⟨out, t'⟩
    rw [htaken] at hstep
    cases out with
    | error f =>
      simp only [work, htaken]
      exact hstep
    | ok _ =>
      simp only [work, htaken]
      exact hstep.trans (work_sameFolders steps (h.keep hstep))

/-! ### The release -/

/-- The second tree is the first without what stood where the path leads: nothing is left
there, and whatever stands elsewhere stands as it did and is read as it was. -/
structure Released (temp : Path) (t t' : Tree) : Prop where
  base : t'.base = t.base
  gone : ∃ r, t'.route temp = .ok r ∧ t'.entry? r = none
  others : ∀ s, t.route temp ≠ .ok s → t'.entry? s = t.entry? s
  read : ∀ p s, t.route p = .ok s → t.route temp ≠ .ok s → t'.read p = t.read p

/-- A file elsewhere is read as before if it stands as before. -/
theorem read_of_entry {p : Path} (h : Tree.SameFolders t t') (hp : t.route p = .ok s)
    (he : t'.entry? s = t.entry? s) : t'.read p = t.read p := by
  rw [Tree.read, Tree.read, h.route hp, hp]
  simp only [he]

/-- **Discarding takes away what the temporary path leads to, if anything,** and always succeeds. -/
theorem discard_released (hnull : Tree.hasNull temp = false) (h : LeadsToFile t temp r) :
    ∃ t', discard temp t = (.ok (), t') ∧ Released temp t t' := by
  have hroot := Tree.ne_root h.2
  cases he : t.entry? r with
  | none =>
    have hunlink : t.unlink temp = .error (Tree.refuse temp .notFound) := by
      unfold Tree.unlink
      rw [if_neg (by simp [hnull]), h.1]
      simp only [he]
    refine ⟨t, by rw [discard, hunlink]; rfl, rfl, ⟨r, h.1, he⟩, fun s _ => rfl, fun p s _ _ => rfl⟩
  | some e =>
    have hfile : e ≠ .folder := fun heq => h.2 (heq ▸ he)
    have hunlink : t.unlink temp = .ok (t.erase r) :=
      Tree.unlink_eq_ok.mpr ⟨hnull, r, e, h.1, he, hfile, rfl⟩
    have hfolders := Tree.SameFolders.erase h.2
    have hothers : ∀ s, t.route temp ≠ .ok s → Tree.entry? (t.erase r) s = t.entry? s := by
      intro s hs
      rw [Tree.entry?_erase t hroot, if_neg]
      rintro rfl
      exact hs h.1
    refine ⟨t.erase r, by rw [discard, hunlink], rfl, ⟨r, hfolders.route h.1, ?_⟩, hothers, ?_⟩
    · rw [Tree.entry?_erase t hroot, if_pos rfl]
    · exact fun p s hp hs => read_of_entry hfolders hp (hothers s hs)

/-- Where entering fails, nothing changes and the work is never done. -/
theorem withStaged_of_error {α : Type} {f : Fault} (inner : Path → Act Tree α)
    (h : stage body directory t = (.error f, t₁)) :
    withStaged body directory inner t = (.error f, t) := by
  rw [withStaged, h]
  simp only
  rw [stage_eq_error h]

/-- Where it does not, the file is discarded after the work. -/
theorem withStaged_of_ok {α : Type} (inner : Path → Act Tree α)
    (h : stage body directory t = (.ok temp, t₁)) : withStaged body directory inner t =
      match discard temp (inner temp t₁).2 with
      | (.ok (), t) => ((inner temp t₁).1, t)
      | (.error f, t) => (.error f, t) := by
  rw [withStaged, h]
  rfl

/-- **A temporary file is always released, and nothing else.** It is entered where its folder stands
and its path is not too long, and that folder does where the directory does; else entering
fails, and then nothing changes and the work is never done. What is entered is a new
file in the directory that holds the body. However the work on it goes, its outcome is the
outcome of the whole, nothing is left at the temporary path, and everything else is as the work
left it. -/
theorem staged_released (body : Bytes) (directory : Path) (t : Tree) :
    ((∃ temp t₁, stage body directory t = (.ok temp, t₁)) ↔
      t.isFolder? (Path.absolute t.basePath directory) = .ok true ∧
        Tree.Fits (tempPath t directory)) ∧
    (t.Based → t.isFolder? directory = .ok true → Tree.Fits (tempPath t directory) →
      t.isFolder? (Path.absolute t.basePath directory) = .ok true) ∧
    (∀ f t₁, stage body directory t = (.error f, t₁) → ∀ {α : Type} (inner : Path → Act Tree α),
      withStaged body directory inner t = (.error f, t)) ∧
    ∀ temp t₁, stage body directory t = (.ok temp, t₁) →
      Staged body directory temp t t₁ ∧
      ∀ steps, ∃ t', withStaged body directory (fun temp => work temp steps) t =
          ((work temp steps t₁).1, t') ∧ Released temp (work temp steps t₁).2 t' := by
  refine ⟨exists_stage_iff body, fun hb hfolder hfits => absolute_isFolder hb hfolder hfits,
    fun f t₁ hstage α inner => withStaged_of_error inner hstage,
    fun temp t₁ hstage => ⟨staged_of_stage hstage, fun steps => ?_⟩⟩
  obtain ⟨hnull, r, hr, hadded⟩ := stage_eq_ok hstage
  have hleads := LeadsToFile.of_added hr hadded
  have hworked := hleads.keep (work_sameFolders steps hleads)
  obtain ⟨t', hdiscard, hreleased⟩ := discard_released hnull hworked
  refine ⟨t', ?_, hreleased⟩
  rw [withStaged_of_ok _ hstage, hdiscard]

/-- A folder for archives, with one in it. -/
def shelf : Tree :=
  ⟨[(["out".toList], .folder), (["a.zip".toList, "out".toList], .file 1 [1])], [], 0, 974⟩

/-- The temporary path there. -/
def shelfTemp : Path := tempPath shelf (.ofText "out".toList)

/-- The same folder with the temporary file. -/
def shelfStaged : Tree := (stage [80, 75] (.ofText "out".toList) shelf).2

/-- Work that gives the temporary file a second name and writes to it, fails to give it that name
once more and goes on, and is interrupted. -/
def interrupted : List Step :=
  [.venture (.link "out/b.zip".toList), .venture (.append [33]),
    .attempt (.link "out/b.zip".toList), .fail (.interrupted none)]

/-- The interrupt comes out; the second name stays, and the temporary one does not. -/
theorem interrupted_work_released : ∃ t',
    withStaged [80, 75] (.ofText "out".toList) (fun temp => work temp interrupted) shelf =
        (.error (.interrupted none), t') ∧
      (∃ r, t'.route shelfTemp = .ok r ∧ t'.entry? r = none) ∧
      t'.read (.ofText "out/b.zip".toList) = .ok [80, 75, 33] := by
  have hstage : stage [80, 75] (.ofText "out".toList) shelf = (.ok shelfTemp, shelfStaged) := rfl
  obtain ⟨t', hrun, hreleased⟩ := ((staged_released _ _ _).2.2.2 _ _ hstage).2 interrupted
  have houtcome : (work shelfTemp interrupted shelfStaged).1 = .error (.interrupted none) := by
    decide +kernel
  have hlinked : (work shelfTemp interrupted shelfStaged).2.route (.ofText "out/b.zip".toList) =
      .ok ["b.zip".toList, "out".toList] := by
    decide +kernel
  have hother : (work shelfTemp interrupted shelfStaged).2.route shelfTemp ≠
      .ok ["b.zip".toList, "out".toList] := by
    decide +kernel
  have hread : (work shelfTemp interrupted shelfStaged).2.read (.ofText "out/b.zip".toList) =
      .ok [80, 75, 33] := by
    decide +kernel
  refine ⟨t', by rw [hrun, houtcome], hreleased.gone, ?_⟩
  rw [hreleased.read _ _ hlinked hother, hread]

end Courier.Archive
