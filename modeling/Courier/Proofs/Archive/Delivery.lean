import Courier.Archive.Target
import Courier.Proofs.Archive.Candidates
import Courier.Proofs.Archive.Staging
import Courier.Proofs.Tree.Folders

/-!
# Delivery is all or nothing

Saving makes the folders that are missing, and from there on either adds one
file, the whole body under a name at which nothing stood, or leaves the tree
looking as it did. The temporary file is gone in both cases.

Key definitions: `Archive.Saved`, `Archive.StagedGone`, `Target.Delivers`, `Target.Declines`.
Key theorems: `Archive.claim_cases`, `Archive.withStaged_claim_cases`, `Target.save_cases`,
`Target.deliver_cases`, `Target.deliver_all_or_nothing`.
-/

namespace Courier

namespace Archive

variable {t : Tree} {temp wanted directory : Path} {body : Bytes}

/-- What a claim does: it puts the temporary file's entry where some candidate
leads, at which nothing stood, or it fails and changes nothing. The induction
is on the candidates left to be tried. -/
theorem claimFrom_cases (hw : wanted.Proper) (t : Tree) : ∀ fuel n : ℕ,
    (∃ k p s e r, candidate wanted k = .ok p ∧ Tree.hasNull p = false ∧ t.route temp = .ok s ∧
      t.entry? s = some e ∧ t.route p = .ok r ∧ t.entry? r = none ∧
      claimFrom temp wanted fuel n t = (.ok p, t.put r e)) ∨
    ∃ f, claimFrom temp wanted fuel n t = (.error f, t)
  | 0, n => Or.inr ⟨_, rfl⟩
  | fuel + 1, n => by
    rw [claimFrom]
    cases hc : candidate wanted n with
    | error f => exact Or.inr ⟨f, rfl⟩
    | ok p =>
      simp only
      cases hl : t.link temp p.text with
      | ok t' =>
        obtain ⟨-, hnull, s, e, r, hs, he, hr, hnone, rfl⟩ :=
          Tree.link_eq_ok (candidate_proper hw hc) hl
        exact Or.inl ⟨n, p, s, e, r, hc, hnull, hs, he, hr, hnone, rfl⟩
      | error f =>
        split
        · rename_i heq
          exact absurd heq (by simp)
        · exact claimFrom_cases hw t fuel (n + 1)
        · rename_i f' _ heq
          exact Or.inr ⟨f', rfl⟩

/-- The body is saved at the path: that is a candidate of the wanted one, and the
file there is all that the second tree has more than the first. -/
structure Saved (body : Bytes) (wanted p : Path) (t t' : Tree) : Prop where
  candidate : ∃ k, candidate wanted k = .ok p
  noNull : Tree.hasNull p = false
  added : ∃ r, t'.route p = .ok r ∧ Tree.Added r (.file t.freshNode body) t t'

/-- The temporary file that is staged in the first tree, if it comes to that, is
gone from the second. -/
def StagedGone (body : Bytes) (directory : Path) (t t' : Tree) : Prop :=
  ∀ temp, (stage body directory t).1 = .ok temp → t'.Vacant temp

/-- **Staging, claiming and discarding** save the body under a candidate, or leave no trace. -/
theorem withStaged_claim_cases (hw : wanted.Proper) (body : Bytes) (directory : Path) (t : Tree) :
    ∃ t', StagedGone body directory t t' ∧
      ((∃ p, withStaged body directory (fun temp => claim temp wanted) t = (.ok p, t') ∧
          Saved body wanted p t t') ∨
        ∃ f, withStaged body directory (fun temp => claim temp wanted) t = (.error f, t') ∧
          Tree.Same t t') := by
  unfold withStaged StagedGone
  rcases hst : stage body directory t with ⟨out, t₁⟩
  cases out with
  | error f =>
    refine ⟨t₁, fun temp h => absurd h (by simp), Or.inr ⟨f, rfl, ?_⟩⟩
    exact stage_eq_error hst ▸ Tree.Same.refl t
  | ok temp =>
    obtain ⟨hnull, rt, hrt, hadded⟩ := stage_eq_ok hst
    have hrt₁ := hadded.keptIn.route hrt
    -- what the end of the work leaves at the temporary name
    have hgone : ∀ t', Tree.KeptIn t t' → t'.entry? rt = none →
        ∀ temp', (Except.ok temp : Except Fault Path) = .ok temp' → t'.Vacant temp' := by
      intro t' hk hnone temp' htemp r hr
      rw [← Except.ok.inj htemp, hk.route hrt] at hr
      rw [← Except.ok.inj hr, hnone]
    rcases claimFrom_cases hw t₁ (t₁.entries.length + 2) 0 with
      ⟨k, p, s, e, r, hk, hpnull, hs, he, hr, hnone, hrun⟩ | ⟨f, hrun⟩
    · obtain rfl : rt = s := Except.ok.inj (hrt₁.symm.trans hs)
      obtain rfl : e = .file t.freshNode body := Option.some.inj (he.symm.trans hadded.self)
      have hput := Tree.added_put hnone (.file t.freshNode body)
      have hsaved := hadded.erase hput
      have hdiscard := discard_eq hnull (hput.keptIn.route hrt₁) (hput.keptIn.entry _ _ hadded.self)
      refine ⟨_, hgone _ hsaved.keptIn ?_, Or.inl ⟨p, ?_, ⟨k, hk⟩, hpnull, r, ?_, hsaved⟩⟩
      · rw [Tree.entry?_erase _ (Tree.ne_root_of_vacant hadded.vacant), if_pos rfl]
      · simp only [claim, hrun, hdiscard]
      · exact hsaved.keptIn.route (hadded.route_of_file hr)
    · have hdiscard := discard_eq hnull hrt₁ hadded.self
      have hsame := hadded.erase_same
      refine ⟨_, hgone _ hsame.keptIn ?_, Or.inr ⟨f, ?_, hsame⟩⟩
      · rw [hsame.entry, hadded.vacant]
      · simp only [claim, hrun, hdiscard]

end Archive

namespace Target

open Archive (Saved StagedGone)

variable {target : Target}

theorem wanted_proper (h : target.folder.Proper) (fileName : Text) : (target.wanted fileName).Proper :=
  Path.proper_join h (Path.proper_ofText _)

/-- Saving makes folders, and then saves the body under a candidate or leaves no trace. -/
theorem save_cases (h : target.folder.Proper) (body : Bytes) (fileName : Text) (t : Tree) :
    ∃ t₁ t', t₁ = (Tree.makeFolders target.folder t).2 ∧ Tree.GrowsTowards target.folder t t₁ ∧
      StagedGone body target.folder t₁ t' ∧
      ((∃ p, target.save body fileName t = (.ok p, t') ∧ t₁.isFolder? target.folder = .ok true ∧
          Saved body (target.wanted fileName) p t₁ t') ∨
        ∃ f, target.save body fileName t = (.error f, t') ∧ Tree.Same t₁ t') := by
  have hgrows := Tree.makeFolders_grows target.folder t
  have hfolder := Tree.makeFolders_isFolder (p := target.folder) (t := t)
  unfold save
  rcases hmade : Tree.makeFolders target.folder t with ⟨out, t₁⟩
  rw [hmade] at hgrows hfolder
  cases out with
  | error f =>
    refine ⟨t₁, t₁, rfl, hgrows, ?_, Or.inr ⟨f, rfl, Tree.Same.refl t₁⟩⟩
    intro temp htemp
    rcases hst : Archive.stage body target.folder t₁ with ⟨out, t₂⟩
    rw [hst] at htemp
    subst htemp
    obtain ⟨-, r, hr, hadded⟩ := Archive.stage_eq_ok hst
    intro s hs
    rw [← Except.ok.inj (hr.symm.trans hs), hadded.vacant]
  | ok _ =>
    obtain ⟨t', hgone, hcases⟩ :=
      Archive.withStaged_claim_cases (wanted_proper h fileName) body target.folder t₁
    refine ⟨t₁, t', rfl, hgrows, hgone, ?_⟩
    rcases hcases with ⟨p, hrun, hsaved⟩ | ⟨f, hrun, hsame⟩
    · exact Or.inl ⟨p, hrun, hfolder rfl, hsaved⟩
    · exact Or.inr ⟨f, hrun, hsame⟩

/-- What a delivery that succeeds does to the tree and to the memory of the latest archive. -/
structure Delivers (target : Target) (body : Bytes) (fileName : Text) (p : Path) (d d' : Depot) :
    Prop where
  vacant : d.tree.Vacant p
  read : d'.tree.read p = .ok body
  candidate : ∃ k, Archive.candidate (target.wanted fileName) k = .ok p
  folder : d'.tree.isFolder? target.folder = .ok true
  grows : ∃ r, d'.tree.route p = .ok r ∧ d.tree.entry? r = none ∧
    Tree.Grows (fun s e => s = r ∨ e = .folder ∧ d'.tree.OnTheWay target.folder s) d.tree d'.tree ∧
    (d.tree.isFolder? target.folder = .ok true → ∃ n, Tree.Added r (.file n body) d.tree d'.tree)
  lastSaved : d'.lastSaved = some p

/-- What a delivery that fails leaves. -/
structure Declines (target : Target) (d d' : Depot) : Prop where
  grows : Tree.GrowsTowards target.folder d.tree d'.tree
  same : d.tree.isFolder? target.folder = .ok true → Tree.Same d.tree d'.tree
  lastSaved : d'.lastSaved = d.lastSaved

theorem Declines.refl (target : Target) (d : Depot) : Declines target d d :=
  ⟨Tree.Grows.refl _, fun _ => Tree.Same.refl _, rfl⟩

/-- A body that was saved after folders were made for it. -/
theorem delivers_of_saved {body : Bytes} {fileName : Text} {p : Path} {d : Depot} {t₁ t' : Tree}
    (hgrows : Tree.GrowsTowards target.folder d.tree t₁)
    (hfolder : d.tree.isFolder? target.folder = .ok true → t₁ = d.tree)
    (hmade : t₁.isFolder? target.folder = .ok true)
    (hsaved : Saved body (target.wanted fileName) p t₁ t') :
    Delivers target body fileName p d ⟨t', some p⟩ := by
  obtain ⟨r, hr, hadded⟩ := hsaved.added
  have hk := hadded.keptIn
  have hnone : d.tree.entry? r = none := hgrows.toKeptIn.entry?_none hadded.vacant
  refine ⟨?_, ?_, hsaved.candidate, hk.isFolder? hmade,
    ⟨r, hr, hnone, ?_, fun h => ⟨_, hfolder h ▸ hadded⟩⟩, rfl⟩
  · -- where the path led before the folders were made, nothing stood
    intro s hs
    obtain rfl : r = s := Except.ok.inj (hr.symm.trans ((hgrows.toKeptIn.trans hk).route hs))
    exact hnone
  · exact Tree.read_eq_ok.mpr ⟨hsaved.noNull, r, _, hr, hadded.self⟩
  · exact (hgrows.mono fun s e ⟨he, hs⟩ => Or.inr ⟨he, hs.mono hk⟩).trans (hadded.grows (Or.inl rfl))

/-- **A delivery either saves the whole body under a new name or saves nothing.** -/
theorem deliver_cases (h : target.folder.Proper) (body : Bytes) (fileName : Text) (d : Depot) :
    ∃ d', StagedGone body target.folder (Tree.makeFolders target.folder d.tree).2 d'.tree ∧
      ((∃ p, target.deliver body fileName d = (.ok p, d') ∧ Delivers target body fileName p d d') ∨
        ∃ f, target.deliver body fileName d = (.error f, d') ∧ Declines target d d') := by
  obtain ⟨t₁, t', ht₁, hgrows, hgone, hcases⟩ := save_cases h body fileName d.tree
  have hfolder : d.tree.isFolder? target.folder = .ok true → t₁ = d.tree := fun hf => by
    rw [ht₁, Tree.makeFolders_of_isFolder hf]
  rw [← ht₁]
  unfold deliver
  rcases hcases with ⟨p, hrun, hmade, hsaved⟩ | ⟨f, hrun, hsame⟩
  · rw [hrun]
    exact ⟨⟨t', some p⟩, hgone, Or.inl ⟨p, rfl, delivers_of_saved hgrows hfolder hmade hsaved⟩⟩
  · rw [hrun]
    refine ⟨{ d with tree := t' }, hgone, Or.inr ⟨f, rfl, hgrows.trans hsame.grows, ?_, rfl⟩⟩
    exact fun hf => hfolder hf ▸ hsame

theorem delivers_of_ok (h : target.folder.Proper) {body : Bytes} {fileName : Text} {p : Path}
    {d d' : Depot} (hrun : target.deliver body fileName d = (.ok p, d')) :
    Delivers target body fileName p d d' := by
  obtain ⟨d'', -, ⟨q, hq, hd⟩ | ⟨f, hf, -⟩⟩ := deliver_cases h body fileName d
  · obtain ⟨hpath, rfl⟩ := Prod.mk.inj (hrun.symm.trans hq)
    exact Except.ok.inj hpath ▸ hd
  · exact absurd (hf.symm.trans hrun) error_ne_ok

theorem declines_of_error (h : target.folder.Proper) {body : Bytes} {fileName : Text} {f : Fault}
    {d d' : Depot} (hrun : target.deliver body fileName d = (.error f, d')) :
    Declines target d d' := by
  obtain ⟨d'', -, ⟨q, hq, -⟩ | ⟨g, hg, hd⟩⟩ := deliver_cases h body fileName d
  · exact absurd (hrun.symm.trans hq) error_ne_ok
  · obtain ⟨-, rfl⟩ := Prod.mk.inj (hrun.symm.trans hg)
    exact hd

/-- **Delivery is all or nothing, and overwrites nothing.** Either the path that
it gives led to nothing before and now leads to a file with exactly the body,
everything that stood stands unchanged, and the rest of what is new are folders
on the way to the output folder; or nothing is new but such folders, and the
latest archive is the one it was. Where the output folder stood before, no folder
is new. The
temporary file of the delivery is gone either way. -/
theorem deliver_all_or_nothing (homeOf : Text → Option Text) (outputFolder fallback : Text)
    {folder : Path} (hfolder : (Path.ofText outputFolder).expandHome homeOf = .ok folder)
    (body : Bytes) (fileName : Text) (d : Depot) :
    ∃ d', StagedGone body folder (Tree.makeFolders folder d.tree).2 d'.tree ∧
      ((∃ p, Target.deliver ⟨folder, fallback⟩ body fileName d = (.ok p, d') ∧
          d.tree.Vacant p ∧ d'.tree.read p = .ok body ∧
          (∃ r, d'.tree.route p = .ok r ∧ d.tree.entry? r = none ∧
            Tree.Grows (fun s e => s = r ∨ e = .folder ∧ d'.tree.OnTheWay folder s) d.tree d'.tree ∧
            (d.tree.isFolder? folder = .ok true →
              ∃ n, Tree.Added r (.file n body) d.tree d'.tree)) ∧
          d'.lastSaved = some p) ∨
        ∃ f, Target.deliver ⟨folder, fallback⟩ body fileName d = (.error f, d') ∧
          Tree.Grows (fun s e => e = .folder ∧ d'.tree.OnTheWay folder s) d.tree d'.tree ∧
          (d.tree.isFolder? folder = .ok true → Tree.Same d.tree d'.tree) ∧
          d'.lastSaved = d.lastSaved) := by
  have hproper := Path.proper_expandHome (Path.proper_ofText outputFolder) hfolder
  obtain ⟨d', hgone, hcases⟩ := @deliver_cases ⟨folder, fallback⟩ hproper body fileName d
  refine ⟨d', hgone, ?_⟩
  rcases hcases with ⟨p, hrun, hd⟩ | ⟨f, hrun, hd⟩
  · exact Or.inl ⟨p, hrun, hd.vacant, hd.read, hd.grows, hd.lastSaved⟩
  · exact Or.inr ⟨f, hrun, hd.grows, hd.same, hd.lastSaved⟩

/-- A folder in which the name that is wanted stands already. -/
def occupied : Depot where
  tree := ⟨[(["out".toList], .folder), (["a.zip".toList, "out".toList], .file 1 [1])], [], 0, 974⟩
  lastSaved := none

/-- Beside a file of the wanted name a numbered one is saved, also when the name comes with folders. -/
theorem deliver_beside_taken_name :
    (Path.ofText "out/".toList).expandHome (fun _ => none) = .ok ⟨0, ["out".toList]⟩ ∧
      ∃ d', d'.tree.read ⟨0, ["out".toList, "a (1).zip".toList]⟩ = .ok [7, 8] ∧
        Target.deliver ⟨⟨0, ["out".toList]⟩, "b.zip".toList⟩ [7, 8] "x/a.zip".toList occupied =
          (.ok ⟨0, ["out".toList, "a (1).zip".toList]⟩, d') := by
  have hfolder : (Path.ofText "out/".toList).expandHome (fun _ => none) = .ok ⟨0, ["out".toList]⟩ := rfl
  have hpath : (Target.deliver ⟨⟨0, ["out".toList]⟩, "b.zip".toList⟩ [7, 8] "x/a.zip".toList occupied).1 =
      .ok ⟨0, ["out".toList, "a (1).zip".toList]⟩ := rfl
  refine ⟨hfolder, ?_⟩
  obtain ⟨d', -, ⟨p, hrun, -, hread, -⟩ | ⟨f, hrun, -⟩⟩ :=
    deliver_all_or_nothing _ _ "b.zip".toList hfolder [7, 8] "x/a.zip".toList occupied
  · rw [hrun] at hpath
    rw [Except.ok.inj hpath] at hread hrun
    exact ⟨d', hread, hrun⟩
  · rw [hrun] at hpath
    exact absurd hpath (by simp)

end Target
end Courier
