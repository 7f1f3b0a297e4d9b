import Courier.Tree
import Courier.Proofs.Path.Proper

/-!
# What a change of the tree leaves standing

A tree is looked at through `Tree.entry?`. A tree is kept in another one when
whatever stands in it stands there unchanged; then every path that leads
somewhere in the first leads to the same route in the second. Growth is
keeping together with a say on what may be new.

Key definitions: `Tree.KeptIn`, `Tree.Grows`, `Tree.OnTheWay`, `Tree.Same`, `Tree.Vacant`,
`Tree.Added`.
Key theorems: `Tree.entry?_put`, `Tree.entry?_erase`, `Tree.KeptIn.route`, `Tree.Grows.trans`.
-/

namespace Courier.Tree

variable {t t' t'' : Tree} {r s : Route} {e : Entry} {p q : Path}

/-! ### Entries after a change -/

theorem entry?_root (t : Tree) : t.entry? [] = some .folder := if_pos rfl

theorem entry?_of_ne (t : Tree) (h : s ≠ []) : t.entry? s = t.entries.lookup s := if_neg h

theorem ne_root_of_vacant (h : t.entry? r = none) : r ≠ [] := by
  rintro rfl
  rw [entry?_root] at h
  exact absurd h (by simp)

theorem lookup_filter_ne (s r : Route) : ∀ l : List (Route × Entry),
    (l.filter (·.1 != r)).lookup s = if s = r then none else l.lookup s
  | [] => by simp
  | (k, e) :: l => by
    rw [List.filter_cons, List.lookup_cons]
    by_cases hk : k = r
    · rw [if_neg (by simp [hk]), lookup_filter_ne s r l]
      by_cases hs : s = r
      · rw [if_pos hs, if_pos hs]
      · rw [if_neg hs, if_neg hs, hk, beq_eq_false_iff_ne.mpr hs]
    · rw [if_pos (by simpa using hk), List.lookup_cons, lookup_filter_ne s r l]
      by_cases hs : s = r
      · rw [if_pos hs, if_pos hs, hs, beq_eq_false_iff_ne.mpr (Ne.symm hk)]
      · rw [if_neg hs, if_neg hs]

/-- An entry that was set stands at its route, and nothing else changes. -/
theorem entry?_put (t : Tree) (hr : r ≠ []) (e : Entry) (s : Route) :
    entry? (t.put r e) s = if s = r then some e else t.entry? s := by
  by_cases hs : s = []
  · rw [hs, entry?_root, if_neg (Ne.symm hr), entry?_root]
  · rw [entry?_of_ne _ hs, entry?_of_ne _ hs, put, List.lookup_cons, lookup_filter_ne]
    by_cases h : s = r
    · simp [h]
    · simp [h, beq_eq_false_iff_ne.mpr h]

/-- An entry that was taken away is gone, and nothing else changes. -/
theorem entry?_erase (t : Tree) (hr : r ≠ []) (s : Route) :
    entry? (t.erase r) s = if s = r then none else t.entry? s := by
  by_cases hs : s = []
  · rw [hs, entry?_root, if_neg (Ne.symm hr), entry?_root]
  · rw [entry?_of_ne _ hs, entry?_of_ne _ hs, erase, lookup_filter_ne]

/-! ### A tree kept in another one -/

/-- Whatever stands in the first tree stands unchanged in the second, and
relative paths are read from the same folder in both. -/
structure KeptIn (t t' : Tree) : Prop where
  base : t'.base = t.base
  entry : ∀ r e, t.entry? r = some e → t'.entry? r = some e

theorem KeptIn.refl (t : Tree) : KeptIn t t := ⟨rfl, fun _ _ h => h⟩

theorem KeptIn.trans (h : KeptIn t t') (h' : KeptIn t' t'') : KeptIn t t'' :=
  ⟨h'.base.trans h.base, fun r e he => h'.entry r e (h.entry r e he)⟩

/-- Where nothing stands in the end, nothing stood before. -/
theorem KeptIn.entry?_none (h : KeptIn t t') (hr : t'.entry? r = none) : t.entry? r = none := by
  cases he : t.entry? r with
  | none => rfl
  | some e => exact absurd (hr.symm.trans (h.entry r e he)) (by simp)

/-- One more component is looked up in a folder, unless it leads to the folder above. -/
theorem locate_cons (t : Tree) (here : Route) (c : Text) (cs : List Text) (s : Route) :
    locate t here (c :: cs) = .ok s ↔ t.entry? here = some .folder ∧
      (c = Path.up ∧ locate t here.tail cs = .ok s ∨
        c ≠ Path.up ∧ Utf8.size c ≤ maxNameSize ∧ locate t (c :: here) cs = .ok s) := by
  rw [locate]
  cases he : t.entry? here with
  | none => simp
  | some e =>
    cases e with
    | folder =>
      by_cases hup : c = Path.up
      · simp [hup]
      · by_cases hsize : maxNameSize < Utf8.size c
        · simp [hup, hsize, Nat.not_le.mpr hsize]
        · simp [hup, hsize, Nat.not_lt.mp hsize]
    | file n bytes => simp
    | unreadable => simp

/-- Only folders are passed through on the way. -/
theorem locate_of_folders (hf : ∀ r, t.entry? r = some .folder → t'.entry? r = some .folder) :
    ∀ (here : Route) (cs : List Text) {s : Route},
      locate t here cs = .ok s → locate t' here cs = .ok s
  | _, [], _, hs => hs
  | here, c :: cs, s, hs => by
    rw [locate_cons] at hs ⊢
    obtain ⟨hfolder, hnext⟩ := hs
    refine ⟨hf here hfolder, ?_⟩
    rcases hnext with ⟨hup, hs⟩ | ⟨hup, hsize, hs⟩
    · exact Or.inl ⟨hup, locate_of_folders hf _ cs hs⟩
    · exact Or.inr ⟨hup, hsize, locate_of_folders hf _ cs hs⟩

theorem route_eq_ok : t.route p = .ok r ↔
    Utf8.size p.text ≤ maxPathSize ∧ locate t (t.origin p) p.parts = .ok r := by
  rw [route]
  by_cases h : maxPathSize < Utf8.size p.text
  · simp [h, Nat.not_le.mpr h]
  · simp [h, Nat.not_lt.mp h]

/-- A path that leads somewhere leads there in every tree with the same folders. -/
theorem route_of_folders (hb : t'.base = t.base)
    (hf : ∀ r, t.entry? r = some .folder → t'.entry? r = some .folder) (hp : t.route p = .ok r) :
    t'.route p = .ok r := by
  rw [route_eq_ok] at hp ⊢
  refine ⟨hp.1, ?_⟩
  rw [origin, hb]
  exact locate_of_folders hf _ _ hp.2

/-- **A path that leads somewhere still leads there when more stands in the tree.** -/
theorem KeptIn.route (h : KeptIn t t') (hp : t.route p = .ok r) : t'.route p = .ok r :=
  route_of_folders h.base (fun r => h.entry r .folder) hp

/-! ### Growth -/

/-- The first tree is kept in the second, and what is new there is allowed. -/
structure Grows (allowed : Route → Entry → Prop) (t t' : Tree) : Prop extends KeptIn t t' where
  fresh : ∀ r e, t.entry? r = none → t'.entry? r = some e → allowed r e

variable {allowed allowed' : Route → Entry → Prop}

theorem Grows.refl (t : Tree) : Grows allowed t t :=
  ⟨KeptIn.refl t, fun r e h h' => by rw [h] at h'; exact absurd h' (by simp)⟩

theorem Grows.mono (h : Grows allowed t t') (himp : ∀ r e, allowed r e → allowed' r e) :
    Grows allowed' t t' :=
  ⟨h.toKeptIn, fun r e hn hs => himp r e (h.fresh r e hn hs)⟩

theorem Grows.trans (h : Grows allowed t t') (h' : Grows allowed t' t'') : Grows allowed t t'' := by
  refine ⟨h.toKeptIn.trans h'.toKeptIn, fun r e hn hs => ?_⟩
  cases hm : t'.entry? r with
  | none => exact h'.fresh r e hm hs
  | some e' =>
    have : e' = e := Option.some.inj ((h'.entry r e' hm).symm.trans hs)
    exact this ▸ h.fresh r e' hn hm

/-- A route to which some leading part of the path leads. -/
def OnTheWay (t : Tree) (p : Path) (r : Route) : Prop :=
  ∃ q : Path, q.slashes = p.slashes ∧ q.parts <+: p.parts ∧ t.route q = .ok r

theorem OnTheWay.mono (hk : KeptIn t t') (h : OnTheWay t p r) : OnTheWay t' p r := by
  obtain ⟨q, hs, hq, hr⟩ := h
  exact ⟨q, hs, hq, hk.route hr⟩

theorem OnTheWay.of_parent (h : OnTheWay t p.parent r) : OnTheWay t p r := by
  obtain ⟨q, hs, hq, hr⟩ := h
  exact ⟨q, hs, hq.trans (List.dropLast_prefix p.parts), hr⟩

/-- What is new in the second tree are folders on the way to the path. -/
abbrev GrowsTowards (p : Path) (t t' : Tree) : Prop :=
  Grows (fun r e => e = .folder ∧ OnTheWay t' p r) t t'

theorem GrowsTowards.trans (h : GrowsTowards p t t') (h' : GrowsTowards p t' t'') :
    GrowsTowards p t t'' :=
  (h.mono fun _ _ ⟨he, hr⟩ => ⟨he, hr.mono h'.toKeptIn⟩).trans h'

/-! ### Trees that look alike, and one entry more -/

/-- The two trees look the same. -/
structure Same (t t' : Tree) : Prop where
  base : t'.base = t.base
  entry : ∀ r, t'.entry? r = t.entry? r

theorem Same.refl (t : Tree) : Same t t := ⟨rfl, fun _ => rfl⟩

theorem Same.symm (h : Same t t') : Same t' t := ⟨h.base.symm, fun r => (h.entry r).symm⟩

theorem Same.trans (h : Same t t') (h' : Same t' t'') : Same t t'' :=
  ⟨h'.base.trans h.base, fun r => (h'.entry r).trans (h.entry r)⟩

theorem Same.keptIn (h : Same t t') : KeptIn t t' :=
  ⟨h.base, fun r _ he => (h.entry r).trans he⟩

theorem Same.grows (h : Same t t') : Grows allowed t t' :=
  ⟨h.keptIn, fun r e hn hs => by
    rw [h.entry, hn] at hs
    exact absurd hs (by simp)⟩

/-- The path leads to nothing. -/
def Vacant (t : Tree) (p : Path) : Prop := ∀ r, t.route p = .ok r → t.entry? r = none

/-- The second tree is the first with one entry more, where nothing stood. -/
structure Added (r : Route) (e : Entry) (t t' : Tree) : Prop where
  base : t'.base = t.base
  vacant : t.entry? r = none
  entry : ∀ s, t'.entry? s = if s = r then some e else t.entry? s

theorem added_put (h : t.entry? r = none) (e : Entry) : Added r e t (t.put r e) :=
  ⟨rfl, h, entry?_put t (ne_root_of_vacant h) e⟩

theorem Added.self (h : Added r e t t') : t'.entry? r = some e := by rw [h.entry, if_pos rfl]

theorem Added.of_ne (h : Added r e t t') (hs : s ≠ r) : t'.entry? s = t.entry? s := by
  rw [h.entry, if_neg hs]

theorem Added.keptIn (h : Added r e t t') : KeptIn t t' := by
  refine ⟨h.base, fun s e' hs => ?_⟩
  rw [h.of_ne, hs]
  rintro rfl
  rw [h.vacant] at hs
  exact absurd hs (by simp)

theorem Added.grows (h : Added r e t t') (hr : allowed r e) : Grows allowed t t' := by
  refine ⟨h.keptIn, fun s e' hn hs => ?_⟩
  by_cases hsr : s = r
  · rw [hsr, h.self] at hs
    rw [hsr, ← Option.some.inj hs]
    exact hr
  · rw [h.of_ne hsr, hn] at hs
    exact absurd hs (by simp)

/-- What was put beside an entry stays when the entry is taken away again. -/
theorem Added.erase {s : Route} {e' : Entry} (h : Added r e t t') (h' : Added s e' t' t'') :
    Added s e' t (t''.erase r) := by
  have hne : s ≠ r := by
    rintro rfl
    have := h'.vacant
    rw [h.self] at this
    exact absurd this (by simp)
  refine ⟨h'.base.trans h.base, ?_, fun u => ?_⟩
  · rw [← h.of_ne hne]
    exact h'.vacant
  · rw [entry?_erase t'' (ne_root_of_vacant h.vacant)]
    by_cases hur : u = r
    · rw [if_pos hur, hur, if_neg (Ne.symm hne), h.vacant]
    · rw [if_neg hur, h'.entry, h.of_ne hur]

/-- A file that is added does not stand on the way to anything. -/
theorem Added.route_of_file {n : ℕ} {bytes : Bytes} (h : Added r (.file n bytes) t t')
    (hp : t'.route p = .ok s) : t.route p = .ok s := by
  refine route_of_folders h.base.symm (fun u hu => ?_) hp
  rw [← h.of_ne, hu]
  rintro rfl
  rw [h.self] at hu
  exact absurd hu (by simp)

/-- An entry that is added and taken away again leaves no trace. -/
theorem Added.erase_same (h : Added r e t t') : Same t (t'.erase r) := by
  refine ⟨h.base, fun u => ?_⟩
  rw [entry?_erase t' (ne_root_of_vacant h.vacant)]
  by_cases hur : u = r
  · rw [if_pos hur, hur, h.vacant]
  · rw [if_neg hur, h.of_ne hur]

end Courier.Tree
