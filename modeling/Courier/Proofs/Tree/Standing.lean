import Courier.Proofs.Tree.Resolved

/-!
# Work on a file leaves the folders standing

A file may be linked to, moved, written to and unlinked: the folders of the tree stay the
same, whatever else changes, so every path that led somewhere leads there afterwards.

Key definition: `Tree.SameFolders`.
Key theorems: `Tree.link_sameFolders`, `Tree.move_sameFolders`, `Tree.update_sameFolders`,
`Tree.unlink_sameFolders`.
-/

namespace Courier.Tree

variable {t t' t'' : Tree} {p : Path} {r s : Route} {e : Entry} {raw : Text}

/-- The same folders stand in both trees, and relative paths are read from one of them. -/
structure SameFolders (t t' : Tree) : Prop where
  base : t'.base = t.base
  folder : ∀ r, t'.entry? r = some .folder ↔ t.entry? r = some .folder

theorem SameFolders.refl (t : Tree) : SameFolders t t := ⟨rfl, fun _ => Iff.rfl⟩

theorem SameFolders.trans (h : SameFolders t t') (h' : SameFolders t' t'') : SameFolders t t'' :=
  ⟨h'.base.trans h.base, fun r => (h'.folder r).trans (h.folder r)⟩

/-- A path that leads somewhere goes on leading there. -/
theorem SameFolders.route (h : SameFolders t t') (hp : t.route p = .ok r) : t'.route p = .ok r :=
  route_of_folders h.base (fun u hu => (h.folder u).mpr hu) hp

theorem ne_root (h : t.entry? r ≠ some .folder) : r ≠ [] := by
  rintro rfl
  exact h (entry?_root t)

/-! ### Where an entry changes -/

theorem SameFolders.put (h : t.entry? r ≠ some .folder) (he : e ≠ .folder) :
    SameFolders t (t.put r e) := by
  refine ⟨rfl, fun s => ?_⟩
  rw [entry?_put t (ne_root h)]
  by_cases hs : s = r
  · rw [if_pos hs, hs]
    simp [h, he]
  · rw [if_neg hs]

theorem SameFolders.erase (h : t.entry? r ≠ some .folder) : SameFolders t (t.erase r) := by
  refine ⟨rfl, fun s => ?_⟩
  rw [entry?_erase t (ne_root h)]
  by_cases hs : s = r
  · rw [if_pos hs, hs]
    simp [h]
  · rw [if_neg hs]

/-- An entry of which the bytes are changed if it is a link to the node. -/
def changed (node : ℕ) (f : Bytes → Bytes) : Entry → Entry
  | .file n bytes => if n = node then .file n (f bytes) else .file n bytes
  | e => e

theorem lookup_map_snd (g : Entry → Entry) (r : Route) : ∀ l : List (Route × Entry),
    (l.map fun e => (e.1, g e.2)).lookup r = (l.lookup r).map g
  | [] => rfl
  | (k, e) :: l => by
    rw [List.map_cons, List.lookup_cons, List.lookup_cons, lookup_map_snd g r l]
    cases r == k <;> rfl

/-- To write to a node is to change the bytes of its links. -/
theorem entry?_changeNode (t : Tree) (node : ℕ) (f : Bytes → Bytes) (r : Route) :
    entry? (t.changeNode node f) r = (t.entry? r).map (changed node f) := by
  have hentries : (t.changeNode node f).entries =
      t.entries.map fun e => (e.1, changed node f e.2) := by
    refine List.map_congr_left fun e _ => ?_
    obtain ⟨k, e⟩ := e
    cases e with
    | file n bytes =>
      simp only [changed]
      split <;> rfl
    | folder => rfl
    | unreadable => rfl
  by_cases hr : r = []
  · rw [hr, entry?_root, entry?_root]
    rfl
  · rw [entry?_of_ne _ hr, entry?_of_ne _ hr, hentries, lookup_map_snd]

theorem SameFolders.changeNode (t : Tree) (node : ℕ) (f : Bytes → Bytes) :
    SameFolders t (t.changeNode node f) := by
  refine ⟨rfl, fun s => ?_⟩
  rw [entry?_changeNode]
  cases t.entry? s with
  | none => simp
  | some e =>
    cases e with
    | folder => simp [changed]
    | file n bytes =>
      by_cases hn : n = node <;> simp [changed, hn]
    | unreadable => simp [changed]

/-! ### The operations -/

theorem linkAt_sameFolders {place : Place} (he : e ≠ .folder) (h : t.linkAt e place = .ok t') :
    SameFolders t t' := by
  obtain ⟨folder, name, -, -, hnone, rfl⟩ := linkAt_eq_ok.mp h
  exact .put (by simp [hnone]) he

/-- A move takes what stands at a route to one at which no folder stands, unless both are
links to one file: then it does nothing. -/
theorem moveTo_eq_ok {place : Place} (h : t.moveTo r place = .ok t') : t' = t ∨
    ∃ e s, t.entry? r = some e ∧ t.entry? s ≠ some .folder ∧ t' = (t.erase r).put s e := by
  cases place with
  | unnamed => exact absurd h (by simp [moveTo])
  | named folder name slash =>
    rw [moveTo] at h
    cases he : t.entry? r with
    | none => simp [he, throw_eq_error] at h
    | some e =>
      cases htarget : t.entryIn folder name with
      | error code => simp [he, htarget, bind, Except.bind] at h
      | ok target =>
        have hstands : t.entry? (name :: folder) = target := by
          unfold entryIn at htarget
          split at htarget
          · exact absurd htarget (by simp)
          · exact Except.ok.inj htarget
        simp only [he, htarget, bind, Except.bind, throw_eq_error, pure, Except.pure] at h
        split at h
        · exact absurd h (by simp)
        · split at h
          · exact absurd h (by simp)
          · split at h
            · exact absurd h (by simp)
            · rename_i hfolder
              split at h
              · exact Or.inl (Except.ok.inj h).symm
              · exact Or.inr ⟨e, _, rfl, hstands ▸ hfolder, (Except.ok.inj h).symm⟩

section Operations

variable (hr : t.route p = .ok r) (hfile : t.entry? r ≠ some .folder)

include hr hfile

theorem link_sameFolders (h : t.link p raw = .ok t') : SameFolders t t' := by
  obtain ⟨-, -, s, e, place, hs, he, -, hlink⟩ := link_eq_linkAt.mp h
  obtain rfl : r = s := Except.ok.inj (hr.symm.trans hs)
  refine linkAt_sameFolders ?_ hlink
  rintro rfl
  exact hfile he

theorem move_sameFolders (h : t.move p raw = .ok t') : SameFolders t t' := by
  unfold move at h
  split at h
  · exact absurd h (by simp)
  · cases hplace : t.place raw with
    | error code => simp [hr, hplace, bind, Except.bind] at h
    | ok place =>
      cases hmove : t.moveTo r place with
      | error code => simp [hr, hplace, hmove, bind, Except.bind] at h
      | ok u =>
        obtain rfl : u = t' := by simpa [hr, hplace, hmove, bind, Except.bind] using h
        rcases moveTo_eq_ok hmove with rfl | ⟨e, s, he, hs, rfl⟩
        · exact .refl u
        · have hmoved : e ≠ .folder := fun heq => hfile (heq ▸ he)
          have hleft : entry? (t.erase r) s ≠ some .folder := fun heq =>
            hs (((SameFolders.erase hfile).folder s).mp heq)
          exact (SameFolders.erase hfile).trans (.put hleft hmoved)

theorem update_sameFolders {f : Bytes → Bytes} (h : t.update p f = .ok t') : SameFolders t t' := by
  unfold update at h
  split at h
  · exact absurd h (by simp)
  · rw [hr] at h
    simp only at h
    cases he : t.entry? r with
    | none =>
      rw [he] at h
      rw [← Except.ok.inj h]
      exact .put hfile (by simp)
    | some e =>
      rw [he] at h
      cases e with
      | folder => exact absurd he hfile
      | file n bytes =>
        rw [← Except.ok.inj h]
        exact .changeNode t n f
      | unreadable => exact absurd h (by simp)

theorem unlink_sameFolders (h : t.unlink p = .ok t') : SameFolders t t' := by
  obtain ⟨-, s, e, hs, -, -, rfl⟩ := unlink_eq_ok.mp h
  obtain rfl : r = s := Except.ok.inj (hr.symm.trans hs)
  exact .erase hfile

end Operations

end Courier.Tree
