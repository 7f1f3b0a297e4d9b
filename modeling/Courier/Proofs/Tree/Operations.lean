import Courier.Proofs.Fault
import Courier.Proofs.Tree.Growth

/-!
# What each operation on the tree does when it succeeds

Every operation on one path succeeds under a condition on the route to which
the path leads, and changes the entry at that route only. A second name for a
file is given as a text; where that is the text of a path, the place that it
names is the route to which the path leads.

Key theorems: `Tree.lookAt_eq_some`, `Tree.read_eq_ok`, `Tree.makeFolder_eq_ok`,
`Tree.create_eq_ok`, `Tree.unlink_eq_ok`, `Tree.link_eq_ok`.
-/

namespace Courier.Tree

variable {t t' : Tree} {p q : Path}

theorem lookAt_eq_some {e : Entry} : t.lookAt p = .ok (some e) ↔
    hasNull p = false ∧ ∃ r, t.route p = .ok r ∧ t.entry? r = some e := by
  unfold lookAt
  cases hasNull p with
  | true => simp
  | false =>
    cases t.route p with
    | ok r => simp
    | error code => cases code <;> simp

/-- A path at which a folder is found leads to one. -/
theorem isFolder?_eq_true : t.isFolder? p = .ok true ↔
    hasNull p = false ∧ ∃ r, t.route p = .ok r ∧ t.entry? r = some .folder := by
  rw [← lookAt_eq_some, isFolder?]
  cases t.lookAt p with
  | error f => simp [Except.map]
  | ok e => simp [Except.map]

theorem read_eq_ok {bytes : Bytes} : t.read p = .ok bytes ↔
    hasNull p = false ∧ ∃ r n, t.route p = .ok r ∧ t.entry? r = some (.file n bytes) := by
  unfold read
  cases hasNull p with
  | true => simp
  | false =>
    cases t.route p with
    | error code => simp
    | ok r =>
      cases he : t.entry? r with
      | none => simp [he]
      | some e => cases e <;> simp [he]

/-- Only a name that is too long keeps a path from being looked at. -/
theorem lookAt_eq_error {f : Fault} (h : t.lookAt p = .error f) : f = refuse p .nameTooLong := by
  unfold lookAt at h
  split at h
  · exact absurd h (by simp)
  · split at h
    · exact absurd h (by simp)
    · exact (Except.error.inj h).symm
    · exact absurd h (by simp)

theorem exists?_eq_error {f : Fault} (h : t.exists? p = .error f) : f = refuse p .nameTooLong :=
  lookAt_eq_error (map_eq_error h)

theorem isFile?_eq_error {f : Fault} (h : t.isFile? p = .error f) : f = refuse p .nameTooLong :=
  lookAt_eq_error (map_eq_error h)

theorem read_eq_error {f : Fault} (h : t.read p = .error f) : f.isSystem = true ∨ f = .nullCharacter := by
  unfold read at h
  split at h
  · exact .inr (Except.error.inj h).symm
  · left
    split at h
    · exact Except.error.inj h ▸ rfl
    · split at h
      · exact Except.error.inj h ▸ rfl
      · exact Except.error.inj h ▸ rfl
      · exact Except.error.inj h ▸ rfl
      · exact absurd h (by simp)

theorem KeptIn.isFolder? (h : KeptIn t t') (hf : t.isFolder? p = .ok true) :
    t'.isFolder? p = .ok true := by
  obtain ⟨hnull, r, hroute, hentry⟩ := isFolder?_eq_true.mp hf
  exact isFolder?_eq_true.mpr ⟨hnull, r, h.route hroute, h.entry _ _ hentry⟩

/-- A file that is kept is read as before. -/
theorem KeptIn.read {bytes : Bytes} (h : KeptIn t t') (hr : t.read p = .ok bytes) :
    t'.read p = .ok bytes := by
  obtain ⟨hnull, r, n, hroute, hentry⟩ := read_eq_ok.mp hr
  exact read_eq_ok.mpr ⟨hnull, r, n, h.route hroute, h.entry _ _ hentry⟩

theorem makeFolder_eq_ok : t.makeFolder p = .ok t' ↔
    hasNull p = false ∧ ∃ r, t.route p = .ok r ∧ t.entry? r = none ∧ t' = t.put r .folder := by
  unfold makeFolder
  cases hasNull p with
  | true => simp
  | false =>
    cases t.route p with
    | error code => simp
    | ok r => cases he : t.entry? r <;> simp [he, eq_comm]

theorem create_eq_ok {bytes : Bytes} : t.create p bytes = .ok t' ↔
    hasNull p = false ∧ ∃ r, t.route p = .ok r ∧ t.entry? r = none ∧
      t' = t.put r (.file t.freshNode bytes) := by
  unfold create
  cases hasNull p with
  | true => simp
  | false =>
    cases t.route p with
    | error code => simp
    | ok r => cases he : t.entry? r <;> simp [he, eq_comm]

theorem unlink_eq_ok : t.unlink p = .ok t' ↔
    hasNull p = false ∧ ∃ r e, t.route p = .ok r ∧ t.entry? r = some e ∧ e ≠ .folder ∧
      t' = t.erase r := by
  unfold unlink
  cases hasNull p with
  | true => simp
  | false =>
    cases t.route p with
    | error code => simp
    | ok r =>
      cases he : t.entry? r with
      | none => simp [he]
      | some e => cases e <;> simp [he, eq_comm]

/-! ### A second name -/

theorem locate_append (t : Tree) (a b : List Text) : ∀ here : Route,
    locate t here (a ++ b) = (locate t here a).bind fun r => locate t r b := by
  induction a with
  | nil => exact fun _ => rfl
  | cons c cs ih =>
    intro here
    rw [List.cons_append, locate, locate]
    cases t.entry? here with
    | none => rfl
    | some e =>
      cases e with
      | folder =>
        simp only
        split
        · exact ih _
        · split
          · rfl
          · exact ih _
      | file n bytes => rfl
      | unreadable => rfl

/-- The place of a last component: the folder that the others lead to holds it. -/
theorem locate_last {t : Tree} {here folder : Route} {cs : List Text} {name : Text}
    (hfolder : t.walk here cs = .ok folder) (hdots : ∀ c ∈ cs, c ≠ ['.']) (hup : name ≠ Path.up)
    (hsize : Utf8.size name ≤ maxNameSize) : locate t here (cs ++ [name]) = .ok (name :: folder) := by
  have hcs : cs.filter (· != ['.']) = cs := List.filter_eq_self.mpr fun c hc => by simpa using hdots c hc
  rw [walk, hcs] at hfolder
  rw [locate_append]
  cases hl : locate t here cs with
  | error code => simp [hl] at hfolder
  | ok r =>
    rw [hl] at hfolder
    simp only at hfolder
    split at hfolder
    · exact absurd hfolder (by simp)
    · rename_i he
      rw [← Except.ok.inj hfolder]
      exact (locate_cons t r name [] _).mpr ⟨he, Or.inr ⟨hup, hsize, rfl⟩⟩
    · exact absurd hfolder (by simp)

/-- A name leads from the folder that holds it. -/
theorem route_in_folder {t : Tree} {folder r : Route} (hne : p.parts ≠ []) (hup : p.name ≠ Path.up)
    (hfolder : t.route p.parent = .ok folder) (hr : t.route p = .ok r) : r = p.name :: folder := by
  have hparent := (route_eq_ok.mp hfolder).2
  have hlast := (route_eq_ok.mp hr).2
  rw [show t.origin p = t.origin p.parent from rfl, Path.parts_eq_parent_name hne, locate_append,
    hparent] at hlast
  obtain ⟨-, ⟨h, -⟩ | ⟨-, -, h⟩⟩ := (locate_cons t folder p.name [] r).mp hlast
  · exact absurd h hup
  · exact (Except.ok.inj h).symm

/-- The place that the text of a path names is where its last component stands in
the folder that the others lead to. -/
theorem place_text (t : Tree) (hq : q.Proper) (hne : q.parts ≠ []) : t.place q.text =
    if maxPathSize < Utf8.size q.text then .error .nameTooLong
    else (t.walk (t.origin q) q.parent.parts).map fun folder =>
      if q.name = Path.up then .unnamed else .named folder q.name false := by
  have hname := Path.isPart_name hq hne
  have htext : q.text ≠ [] := by
    intro hnil
    have := Path.pieces_text hq hne
    rw [hnil] at this
    exact hne this.symm
  have horigin : (if q.text.head? = some '/' then [] else t.base) = t.origin q := by
    rw [origin, if_congr (Path.head?_text hq hne) rfl rfl, ite_not]
  unfold place
  simp only [Path.pieces_text hq hne, horigin, if_neg htext]
  split
  · rfl
  · rw [show q.parts.dropLast = q.parent.parts from rfl]
    have hlast : q.parts.getLast? = some q.name := by
      rw [Path.parts_eq_parent_name hne]
      simp
    cases t.walk (t.origin q) q.parent.parts with
    | error code => rfl
    | ok folder =>
      have hslash : (q.text.getLast? == some '/') = false := by
        simpa using Path.getLast?_text_ne hq hne
      simp only [hlast, hslash, hname.ne_dot, decide_false, Bool.false_or, decide_eq_true_eq, Except.map]
      split <;> rfl

theorem place_text_root (t : Tree) (hne : q.parts = []) (folder : Route) (name : Text) (slash : Bool) :
    t.place q.text ≠ .ok (.named folder name slash) := by
  have hpieces : (Text.splitOn '/' q.text).filter (· != []) = [] ∨
      (Text.splitOn '/' q.text).filter (· != []) = [['.']] := by
    by_cases hc : q = Path.current
    · exact Or.inr (by rw [hc]; decide)
    · refine Or.inl ?_
      rw [Path.text, if_neg hc, hne, Path.filter_splitOn_replicate]
      decide
  unfold place
  rcases hpieces with h | h <;> simp only [h] <;> split
  · simp
  · split
    · simp
    · simp only [List.dropLast_nil, List.getLast?_nil]
      split <;> simp_all
  · simp
  · split
    · simp
    · split <;> simp_all

/-- A place with a name that is not too long is where the path leads. -/
theorem route_of_place (hq : q.Proper) {folder : Route} {name : Text} {slash : Bool}
    (h : t.place q.text = .ok (.named folder name slash)) (hsize : Utf8.size name ≤ maxNameSize) :
    t.route q = .ok (name :: folder) := by
  by_cases hne : q.parts = []
  · exact absurd h (place_text_root t hne folder name slash)
  rw [place_text t hq hne] at h
  split at h
  · exact absurd h (by simp)
  · rename_i hlong
    cases hw : t.walk (t.origin q) q.parent.parts with
    | error code => rw [hw] at h; exact absurd h (by simp [Except.map])
    | ok here =>
      rw [hw] at h
      simp only [Except.map] at h
      split at h
      · exact absurd h (by simp)
      · rename_i hup
        obtain ⟨rfl, rfl, rfl⟩ : here = folder ∧ q.name = name ∧ false = slash := by simpa using h
        rw [route_eq_ok]
        refine ⟨Nat.not_lt.mp hlong, ?_⟩
        rw [Path.parts_eq_parent_name hne]
        exact locate_last hw (fun c hc => (Path.proper_parent hq c hc).ne_dot) hup hsize

theorem throw_eq_error {ε α : Type} (e : ε) : (throw e : Except ε α) = .error e := rfl

/-- A name is given where nothing stands, without a slash after it. -/
theorem linkAt_eq_ok {e : Entry} {place : Place} : t.linkAt e place = .ok t' ↔
    ∃ folder name, place = .named folder name false ∧ Utf8.size name ≤ maxNameSize ∧
      t.entry? (name :: folder) = none ∧ t' = t.put (name :: folder) e := by
  cases place with
  | unnamed => simp [linkAt]
  | named folder name slash =>
    rw [linkAt, entryIn]
    by_cases hsize : maxNameSize < Utf8.size name
    · simp [hsize, bind, Except.bind, Nat.not_le.mpr hsize]
    · cases hn : t.entry? (name :: folder) with
      | some e' => simp [hsize, hn, bind, Except.bind, throw_eq_error]
      | none =>
        cases slash <;>
          simp [hsize, hn, bind, Except.bind, pure, Except.pure, throw_eq_error, Nat.not_lt.mp hsize,
            eq_comm]

theorem link_eq_linkAt {raw : Text} : t.link p raw = .ok t' ↔
    hasNull p = false ∧ '\x00' ∉ raw ∧ ∃ s e place, t.route p = .ok s ∧ t.entry? s = some e ∧
      t.place raw = .ok place ∧ t.linkAt e place = .ok t' := by
  unfold link
  by_cases hnull : (hasNull p || raw.contains '\x00') = true
  · rw [if_pos hnull]
    simp only [Bool.or_eq_true, List.contains_iff_mem] at hnull
    rcases hnull with h | h <;> simp [h]
  · rw [if_neg hnull]
    obtain ⟨hp, hraw⟩ : hasNull p = false ∧ '\x00' ∉ raw := by simpa using hnull
    cases t.route p with
    | error code => simp [bind, Except.bind]
    | ok s =>
      cases he : t.entry? s with
      | none => simp [he, bind, Except.bind, throw_eq_error]
      | some e =>
        cases t.place raw with
        | error code => simp [he, bind, Except.bind]
        | ok place =>
          cases hl : t.linkAt e place <;>
            simp [he, hl, hp, hraw, bind, Except.bind]

/-- A path is free of the null character just when its text is. -/
theorem hasNull_eq_false_iff : hasNull q = false ↔ '\x00' ∉ q.text := by
  have hparts : hasNull q = false ↔ ∀ c ∈ q.parts, '\x00' ∉ c := by simp [hasNull]
  rw [hparts]
  constructor
  · intro h hmem
    rcases Path.of_mem_text hmem with h' | h' | ⟨c, hc, h'⟩
    · exact absurd h' (by decide)
    · exact absurd h' (by decide)
    · exact h c hc h'
  · exact fun h c hc hmem => h (Path.mem_text_of_mem hmem hc)

/-- **A file gets a second name only where nothing stands,** and that name leads to it. -/
theorem link_eq_ok (hq : q.Proper) (h : t.link p q.text = .ok t') :
    hasNull p = false ∧ hasNull q = false ∧ ∃ s e r, t.route p = .ok s ∧ t.entry? s = some e ∧
      t.route q = .ok r ∧ t.entry? r = none ∧ t' = t.put r e := by
  obtain ⟨hp, hqn, s, e, place, hs, he, hplace, hlink⟩ := link_eq_linkAt.mp h
  obtain ⟨folder, name, rfl, hsize, hnone, rfl⟩ := linkAt_eq_ok.mp hlink
  exact ⟨hp, hasNull_eq_false_iff.mpr hqn, s, e, name :: folder, hs, he,
    route_of_place hq hplace hsize, hnone, rfl⟩

end Courier.Tree
