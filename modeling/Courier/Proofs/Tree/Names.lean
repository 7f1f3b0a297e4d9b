import Courier.Proofs.Bytes.Boundaries
import Courier.Proofs.Tree.Resolved
import Mathlib.Data.List.Nodup
import Mathlib.Data.List.Perm.Subperm

/-!
# Names in a folder

A tree holds finitely many entries, so of pairwise distinct routes, as many as it has
entries and one more, some route leads to nothing. A path whose other components lead to
a folder names the entry of its last component there, and a second name for a file is
given at such a path unless something has it already or it is too long.

Key definitions: `Tree.Fits`, `Tree.Taken`.
Key theorems: `Tree.exists_vacant`, `Tree.route_beside`, `Tree.link_beside`, `Tree.link_taken`,
`Tree.link_vacant`, `Tree.link_unfit`.
-/

namespace Courier.Tree

variable {t : Tree} {p q : Path} {r s folder : Route} {e : Entry}

/-! ### Free routes -/

/-- What stands at a route that is not the root's is one of the entries. -/
theorem mem_entries (hr : r ≠ []) (he : t.entry? r = some e) : r ∈ t.entries.map Prod.fst := by
  rw [entry?_of_ne t hr] at he
  obtain ⟨before, after, hentries, -⟩ := List.lookup_eq_some_iff.mp he
  rw [hentries, List.map_append, List.map_cons]
  exact List.mem_append_right _ List.mem_cons_self

/-- **Of more distinct routes than the tree has entries, some route leads to nothing.** -/
theorem exists_vacant (t : Tree) {f : ℕ → Route} (hf : Function.Injective f) (hne : ∀ n, f n ≠ []) :
    ∃ n ≤ t.entries.length, t.entry? (f n) = none := by
  by_contra hall
  have htaken : ∀ n ≤ t.entries.length, f n ∈ t.entries.map Prod.fst := by
    intro n hn
    obtain ⟨e, he⟩ := Option.ne_none_iff_exists'.mp fun hnone => hall ⟨n, hn, hnone⟩
    exact mem_entries (hne n) he
  have hdistinct : ((List.range (t.entries.length + 1)).map f).Nodup :=
    List.nodup_range.map hf
  have hsub : (List.range (t.entries.length + 1)).map f ⊆ t.entries.map Prod.fst := by
    intro r hr
    obtain ⟨n, hn, rfl⟩ := List.mem_map.mp hr
    exact htaken n (Nat.lt_succ_iff.mp (List.mem_range.mp hn))
  have hlength := (hdistinct.subperm hsub).length_le
  rw [List.length_map, List.length_map, List.length_range] at hlength
  omega

/-! ### Where a name in a folder leads -/

/-- The path and its name are not too long. -/
def Fits (p : Path) : Prop := Utf8.size p.name ≤ maxNameSize ∧ Utf8.size p.text ≤ maxPathSize

/-- The path leads to something. -/
def Taken (t : Tree) (p : Path) : Prop := ∃ e, t.lookAt p = .ok (some e)

/-- A path is free of the null character just when the path to its folder and its name are. -/
theorem hasNull_beside (hne : p.parts ≠ []) :
    hasNull p = false ↔ hasNull p.parent = false ∧ '\x00' ∉ p.name := by
  have hparts : p.parts.any (·.contains '\x00') =
      (p.parent.parts ++ [p.name]).any (·.contains '\x00') := by
    rw [← Path.parts_eq_parent_name hne]
  unfold hasNull
  rw [hparts, List.any_append, List.any_cons, List.any_nil, Bool.or_false, Bool.or_eq_false_iff]
  simp

/-- A path leads on from the folder to which the components before the last one lead. -/
theorem route_beside (hne : p.parts ≠ []) (hfolder : t.route p.parent = .ok folder)
    (hentry : t.entry? folder = some .folder) : t.route p =
      if maxPathSize < Utf8.size p.text then .error .nameTooLong
      else if p.name = Path.up then .ok folder.tail
      else if maxNameSize < Utf8.size p.name then .error .nameTooLong
      else .ok (p.name :: folder) := by
  have hparent : locate t (t.origin p) p.parent.parts = .ok folder := (route_eq_ok.mp hfolder).2
  have hlast : locate t (t.origin p) p.parts = locate t folder [p.name] := by
    rw [Path.parts_eq_parent_name hne, locate_append, hparent]
    rfl
  rw [route, hlast, locate, hentry]
  rfl

/-- A path from the root that leads somewhere has a name in a folder. -/
theorem isFolder?_parent (hs : p.slashes ≠ 0) (hne : p.parts ≠ []) (hnull : hasNull p = false)
    (hr : t.route p = .ok r) : t.isFolder? p.parent = .ok true := by
  obtain ⟨hsize, hlocate⟩ := route_eq_ok.mp hr
  have hshorter := Utf8.size_mono (Path.prefix_text_parent hs hne)
  rw [Path.parts_eq_parent_name hne, locate_append] at hlocate
  cases hparent : locate t (t.origin p) p.parent.parts with
  | error code =>
    rw [hparent] at hlocate
    exact absurd hlocate (by simp [Except.bind])
  | ok folder =>
    rw [hparent] at hlocate
    have hentry := ((locate_cons t folder p.name [] r).mp hlocate).1
    have hroute : t.route p.parent = .ok folder := route_eq_ok.mpr ⟨hshorter.trans hsize, hparent⟩
    exact isFolder?_eq_true.mpr ⟨((hasNull_beside hne).mp hnull).1, folder, hroute, hentry⟩

theorem fits_of_route (hs : p.slashes ≠ 0) (hne : p.parts ≠ []) (hup : p.name ≠ Path.up)
    (hnull : hasNull p = false) (hr : t.route p = .ok r) : Fits p := by
  obtain ⟨-, folder, hfolder, hentry⟩ := isFolder?_eq_true.mp (isFolder?_parent hs hne hnull hr)
  have hsize := (route_eq_ok.mp hr).1
  rw [route_beside hne hfolder hentry, if_neg (Nat.not_lt.mpr hsize), if_neg hup] at hr
  refine ⟨?_, hsize⟩
  by_contra hname
  rw [if_pos (Nat.not_le.mp hname)] at hr
  exact absurd hr (by simp)

/-- A second name beside others is given where the path is not too long and nothing has it. -/
theorem link_beside (hq : q.Proper) (hne : q.parts ≠ []) (hqnull : hasNull q = false)
    (hfolder : t.route q.parent = .ok folder) (hentry : t.entry? folder = some .folder)
    (hp : hasNull p = false) (hs : t.route p = .ok s) (he : t.entry? s = some e) :
    t.link p q.text =
      if maxPathSize < Utf8.size q.text then .error (refuseBoth p q.text .nameTooLong)
      else if q.name = Path.up then .error (refuseBoth p q.text .exists)
      else if maxNameSize < Utf8.size q.name then .error (refuseBoth p q.text .nameTooLong)
      else if (t.entry? (q.name :: folder)).isSome then .error (refuseBoth p q.text .exists)
      else .ok (t.put (q.name :: folder) e) := by
  have hparent : locate t (t.origin q) q.parent.parts = .ok folder := (route_eq_ok.mp hfolder).2
  have hdots : q.parent.parts.filter (· != ['.']) = q.parent.parts :=
    List.filter_eq_self.mpr fun c hc => by simpa using (Path.proper_parent hq c hc).ne_dot
  have hwalk : t.walk (t.origin q) q.parent.parts = .ok folder := by
    rw [walk, hdots, hparent]
    simp only [hentry]
  have htext : ¬(hasNull p || q.text.contains '\x00') = true := by
    simp [hp, hasNull_eq_false_iff.mp hqnull]
  rw [link, if_neg htext, hs, place_text t hq hne]
  by_cases hlong : maxPathSize < Utf8.size q.text
  · simp [hlong, he, bind, Except.bind]
  · rw [if_neg hlong, if_neg hlong, hwalk]
    by_cases hup : q.name = Path.up
    · simp [hup, he, linkAt, bind, Except.bind, Except.map]
    · by_cases hsize : maxNameSize < Utf8.size q.name
      · simp [hup, hsize, he, linkAt, entryIn, bind, Except.bind, Except.map]
      · cases hstands : t.entry? (q.name :: folder) with
        | some e' =>
          simp [hup, hsize, hstands, he, linkAt, entryIn, bind, Except.bind, Except.map,
            throw_eq_error]
        | none =>
          simp [hup, hsize, hstands, he, linkAt, entryIn, bind, Except.bind, Except.map, pure,
            Except.pure]

/-- A path leads to something just when it is not vacant. -/
theorem taken_iff (hnull : hasNull p = false) : t.Taken p ↔ ¬t.Vacant p := by
  have hsome : t.Taken p ↔ ∃ r e, t.route p = .ok r ∧ t.entry? r = some e := by
    unfold Taken
    simp only [lookAt_eq_some, hnull, true_and]
    exact exists_comm.trans (by simp)
  rw [hsome, Vacant]
  constructor
  · rintro ⟨r, e, hr, he⟩ hvacant
    rw [hvacant r hr] at he
    exact absurd he (by simp)
  · intro h
    by_contra hnone
    refine h fun r hr => ?_
    by_contra he
    obtain ⟨e, he⟩ := Option.ne_none_iff_exists'.mp he
    exact hnone ⟨r, e, hr, he⟩

section Beside

variable (hq : q.Proper) (hne : q.parts ≠ []) (hqnull : hasNull q = false)
  (hfolder : t.route q.parent = .ok folder) (hentry : t.entry? folder = some .folder)
  (hp : hasNull p = false) (hs : t.route p = .ok s) (he : t.entry? s = some e)

include hq hne hqnull hfolder hentry hp hs he

/-- A name that is taken is refused as one that exists. -/
theorem link_taken (h : t.Taken q) : t.link p q.text = .error (refuseBoth p q.text .exists) := by
  obtain ⟨e', he'⟩ := h
  obtain ⟨-, r, hr, hstands⟩ := lookAt_eq_some.mp he'
  rw [link_beside hq hne hqnull hfolder hentry hp hs he]
  rw [route_beside hne hfolder hentry] at hr
  by_cases hlong : maxPathSize < Utf8.size q.text
  · simp [hlong] at hr
  · by_cases hup : q.name = Path.up
    · rw [if_neg hlong, if_pos hup]
    · by_cases hsize : maxNameSize < Utf8.size q.name
      · simp [hlong, hup, hsize] at hr
      · obtain rfl : q.name :: folder = r := by simpa [hlong, hup, hsize] using hr
        rw [if_neg hlong, if_neg hup, if_neg hsize, hstands, Option.isSome_some, if_pos rfl]

/-- A name that is vacant and not too long is given: it is not the folder above, as that stands. -/
theorem link_vacant (hb : t.Based) (hfits : Fits q) (h : t.Vacant q) :
    t.route q = .ok (q.name :: folder) ∧ t.link p q.text = .ok (t.put (q.name :: folder) e) := by
  have hlong : ¬maxPathSize < Utf8.size q.text := Nat.not_lt.mpr hfits.2
  have hsize : ¬maxNameSize < Utf8.size q.name := Nat.not_lt.mpr hfits.1
  have hroute := route_beside hne hfolder hentry
  have hup : q.name ≠ Path.up := by
    intro hup
    rw [if_neg hlong, if_pos hup] at hroute
    have hnone := h _ hroute
    rw [(hb.reached_of_route hfolder).above.2] at hnone
    exact absurd hnone (by simp)
  rw [if_neg hlong, if_neg hup, if_neg hsize] at hroute
  refine ⟨hroute, ?_⟩
  rw [link_beside hq hne hqnull hfolder hentry hp hs he, if_neg hlong, if_neg hup, if_neg hsize,
    h _ hroute, Option.isSome_none, if_neg (by simp)]

/-- A name or a path that is too long is refused as such. -/
theorem link_unfit (hfits : ¬Fits q) :
    t.link p q.text = .error (refuseBoth p q.text .nameTooLong) := by
  rw [link_beside hq hne hqnull hfolder hentry hp hs he]
  by_cases hlong : maxPathSize < Utf8.size q.text
  · rw [if_pos hlong]
  · have hsize : maxNameSize < Utf8.size q.name := by
      by_contra hsize
      exact hfits ⟨Nat.not_lt.mp hsize, Nat.not_lt.mp hlong⟩
    have hup : q.name ≠ Path.up := by
      intro hup
      rw [hup] at hsize
      exact absurd hsize (by decide)
    rw [if_neg hlong, if_neg hup, if_pos hsize]

end Beside

end Courier.Tree
