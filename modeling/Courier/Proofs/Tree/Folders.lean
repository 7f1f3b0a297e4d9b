import Courier.Tree.Folders
import Courier.Proofs.Tree.Operations

/-!
# Making folders adds folders only

Whatever comes of making a folder and those above it, nothing that stood is
lost or changed, and what is new are folders on the way to the path. Where it
succeeds the path leads to a folder; where the path led to one before, nothing
changes.

Key theorems: `Tree.makeFolders_grows`, `Tree.makeFolders_isFolder`, `Tree.makeFolders_of_isFolder`.
-/

namespace Courier.Tree

variable {t t' : Tree} {p : Path}

theorem makeFolder_grows (h : t.makeFolder p = .ok t') : GrowsTowards p t t' := by
  obtain ⟨-, r, hr, hnone, rfl⟩ := makeFolder_eq_ok.mp h
  have hadded := added_put hnone .folder
  exact hadded.grows ⟨rfl, p, rfl, List.prefix_refl _, hadded.keptIn.route hr⟩

theorem makeFolder_isFolder (h : t.makeFolder p = .ok t') : t'.isFolder? p = .ok true := by
  obtain ⟨hnull, r, hr, hnone, rfl⟩ := makeFolder_eq_ok.mp h
  have hadded := added_put hnone .folder
  exact isFolder?_eq_true.mpr ⟨hnull, r, hadded.keptIn.route hr, hadded.self⟩

theorem ensureFolder_grows (p : Path) (t : Tree) : GrowsTowards p t (ensureFolder p t).2 := by
  unfold ensureFolder
  cases h : t.makeFolder p with
  | ok t' => exact makeFolder_grows h
  | error f => exact Grows.refl t

theorem ensureFolder_isFolder (h : (ensureFolder p t).1 = .ok ()) :
    (ensureFolder p t).2.isFolder? p = .ok true := by
  unfold ensureFolder at h ⊢
  cases hm : t.makeFolder p with
  | ok t' => exact makeFolder_isFolder hm
  | error f =>
    rw [hm] at h
    simp only at h
    split at h
    · rename_i hstands
      unfold standsAlready at hstands
      split at hstands
      · exact absurd hstands (by simp)
      · cases hf : t.isFolder? p with
        | error f => rw [hf] at hstands; exact absurd hstands (by simp [Except.toOption])
        | ok b =>
          rw [hf] at hstands
          have hb : b = true := by simpa [Except.toOption] using hstands
          exact congrArg Except.ok hb
      · exact absurd hstands (by simp)
    · exact absurd h (by simp)

/-- A folder is made last, so that what was made above it stays when it cannot be made. -/
theorem makeFoldersUpTo_grows : ∀ (n : ℕ) (p : Path) (t : Tree),
    GrowsTowards p t (makeFoldersUpTo n p t).2
  | 0, p, t => by
    unfold makeFoldersUpTo
    split
    · exact ensureFolder_grows p t
    · exact Grows.refl t
  | n + 1, p, t => by
    unfold makeFoldersUpTo
    split
    · have habove := makeFoldersUpTo_grows n p.parent t
      have htowards : GrowsTowards p t (makeFoldersUpTo n p.parent t).2 :=
        habove.mono fun _ _ ⟨he, hr⟩ => ⟨he, hr.of_parent⟩
      split
      · rename_i t₁ hmade
        rw [hmade] at htowards
        exact htowards.trans (ensureFolder_grows p t₁)
      · rename_i f t₁ hmade
        rw [hmade] at htowards
        exact htowards
    · exact ensureFolder_grows p t

theorem makeFoldersUpTo_isFolder : ∀ (n : ℕ) (p : Path) (t : Tree),
    (makeFoldersUpTo n p t).1 = .ok () → (makeFoldersUpTo n p t).2.isFolder? p = .ok true
  | 0, p, t, h => by
    unfold makeFoldersUpTo at h ⊢
    by_cases hp : p.parts = []
    · rw [if_pos hp] at h ⊢
      exact ensureFolder_isFolder h
    · rw [if_neg hp] at h
      exact absurd h (by simp)
  | n + 1, p, t, h => by
    unfold makeFoldersUpTo at h ⊢
    split
    · rename_i hm
      rw [hm] at h
      simp only at h
      split
      · rename_i t₁ hmade
        rw [hmade] at h
        exact ensureFolder_isFolder h
      · rename_i f t₁ hmade
        rw [hmade] at h
        exact absurd h (by simp)
    · rename_i hm
      split at h
      · rename_i hm'
        exact absurd hm' (hm _ _)
      · exact ensureFolder_isFolder h

/-- **Making a folder adds nothing but folders on the way to it.** -/
theorem makeFolders_grows (p : Path) (t : Tree) : GrowsTowards p t (makeFolders p t).2 :=
  makeFoldersUpTo_grows _ p t

/-- Where making a folder succeeds, the path leads to a folder. -/
theorem makeFolders_isFolder (h : (makeFolders p t).1 = .ok ()) :
    (makeFolders p t).2.isFolder? p = .ok true :=
  makeFoldersUpTo_isFolder _ p t h

theorem ensureFolder_of_isFolder (h : t.isFolder? p = .ok true) : ensureFolder p t = (.ok (), t) := by
  obtain ⟨hnull, r, hr, he⟩ := isFolder?_eq_true.mp h
  have hm : t.makeFolder p = .error (refuse p .exists) := by simp [makeFolder, hnull, hr, he]
  have hs : t.standsAlready p (refuse p .exists) = true := by
    simp [standsAlready, refuse, h, Except.toOption]
  rw [ensureFolder, hm]
  simp [hs]

/-- A folder that stands is not made again. -/
theorem makeFolders_of_isFolder (h : t.isFolder? p = .ok true) : makeFolders p t = (.ok (), t) := by
  have hensure := ensureFolder_of_isFolder h
  unfold makeFolders
  cases hn : min p.parts.length (t.limit + 1) with
  | zero =>
    have hp : p.parts = [] := List.length_eq_zero_iff.mp (by omega)
    rw [makeFoldersUpTo, if_pos hp, hensure]
  | succ n =>
    obtain ⟨hnull, r, hr, he⟩ := isFolder?_eq_true.mp h
    have hm : t.makeFolder p = .error (refuse p .exists) := by simp [makeFolder, hnull, hr, he]
    rw [makeFoldersUpTo]
    simp only [hm, refuse]
    exact hensure

end Courier.Tree
