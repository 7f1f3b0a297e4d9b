import Courier.Proofs.Text.Pieces
import Courier.Fault

/-!
# Paths as they are spelled

A path that was read from text has proper components: none is empty or a single
dot, and none holds a slash. Joining such paths, going up and putting a home
folder in keep that, and the text of such a path, cut at its slashes, gives its
components back.

Key definitions: `Path.IsPart`, `Path.Proper`.
Key theorems: `Path.proper_ofText`, `Path.pieces_text`.
-/

namespace Courier.Path

/-- A component that a text can spell: neither empty nor a single dot, and without a slash. -/
structure IsPart (c : Text) : Prop where
  isComponent : isComponent c = true
  noSlash : '/' ∉ c

/-- Every component of the path can be spelled. -/
def Proper (p : Path) : Prop := ∀ c ∈ p.parts, IsPart c

theorem isComponent_iff {c : Text} : isComponent c = true ↔ c ≠ [] ∧ c ≠ ['.'] := by
  simp [isComponent]

theorem IsPart.ne_nil {c : Text} (h : IsPart c) : c ≠ [] := (isComponent_iff.mp h.isComponent).1

theorem IsPart.ne_dot {c : Text} (h : IsPart c) : c ≠ ['.'] := (isComponent_iff.mp h.isComponent).2

/-- A text spells proper components only. -/
theorem proper_ofText (t : Text) : (ofText t).Proper := by
  intro c hc
  obtain ⟨hmem, hcomp⟩ := List.mem_filter.mp hc
  exact ⟨hcomp, Text.not_mem_of_mem_splitOn '/' t hmem⟩

/-- A slash between two texts joins the components that they spell. -/
theorem parts_ofText_append (t u : Text) :
    (ofText (t ++ '/' :: u)).parts = (ofText t).parts ++ (ofText u).parts := by
  simp only [ofText, Text.splitOn_append, List.filter_append]

theorem proper_join {p q : Path} (hp : p.Proper) (hq : q.Proper) : (p.join q).Proper := by
  unfold join
  split
  · intro c hc
    rcases List.mem_append.mp hc with hc | hc
    · exact hp c hc
    · exact hq c hc
  · exact hq

theorem proper_parent {p : Path} (hp : p.Proper) : p.parent.Proper :=
  fun c hc => hp c (List.dropLast_subset _ hc)

theorem proper_withName {p : Path} {name : Text} (hp : p.Proper) (hn : IsPart name) :
    (p.withName name).Proper := by
  intro c hc
  rcases List.mem_append.mp hc with hc | hc
  · exact hp c (List.dropLast_subset _ hc)
  · rw [List.mem_singleton.mp hc]
    exact hn

theorem proper_homeFolder (home : Text) : (homeFolder home).Proper := by
  unfold homeFolder
  split
  · exact fun c hc => absurd hc List.not_mem_nil
  · exact proper_ofText _

/-- A proper path stays proper when a home folder is put in. -/
theorem proper_expandHome? {homeOf : Text → Option Text} {p q : Path} (hp : p.Proper)
    (h : p.expandHome? homeOf = some q) : q.Proper := by
  unfold expandHome? at h
  split at h
  · rename_i user rest hslashes hparts
    split at h
    · exact absurd h (by simp)
    · exact absurd h (by simp)
    · rw [← Option.some.inj h]
      refine proper_join (proper_homeFolder _) fun c hc => hp c ?_
      rw [hparts]
      exact List.mem_cons_of_mem _ hc
  · rw [← Option.some.inj h]
    exact hp

theorem proper_expandHome {homeOf : Text → Option Text} {p q : Path} (hp : p.Proper)
    (h : p.expandHome homeOf = .ok q) : q.Proper := by
  unfold expandHome at h
  split at h
  · rename_i r hr
    rw [← Except.ok.inj h]
    exact proper_expandHome? hp hr
  · exact absurd h (by simp)

theorem expandHome_eq_error {homeOf : Text → Option Text} {p : Path} {f : Fault}
    (h : p.expandHome homeOf = .error f) : f = .nullCharacter ∨ f = .unknownHome := by
  unfold expandHome at h
  split at h
  · exact absurd h (by simp)
  · rw [← Except.error.inj h]
    split
    · exact .inl rfl
    · exact .inr rfl

/-! ### The last component -/

theorem parts_eq_parent_name {p : Path} (h : p.parts ≠ []) :
    p.parts = p.parent.parts ++ [p.name] := by
  rw [name, List.getLast?_eq_some_getLast h, Option.getD_some]
  exact (List.dropLast_append_getLast h).symm

theorem isPart_name {p : Path} (hp : p.Proper) (h : p.parts ≠ []) : IsPart p.name :=
  hp _ (by rw [parts_eq_parent_name h]; simp)

theorem parent_join_name (folder : Path) (name : Text) :
    (folder.join ⟨0, [name]⟩).parent = folder := by
  simp [join, parent]

theorem name_join_name (folder : Path) (name : Text) : (folder.join ⟨0, [name]⟩).name = name := by
  simp [join, Path.name]

/-! ### The text of a path -/

theorem text_eq {p : Path} (h : p.parts ≠ []) :
    p.text = List.replicate p.slashes '/' ++ ['/'].intercalate p.parts := by
  rw [text, if_neg]
  rintro rfl
  exact h rfl

theorem filter_splitOn_replicate (t : Text) : ∀ n : ℕ,
    (Text.splitOn '/' (List.replicate n '/' ++ t)).filter (· != []) =
      (Text.splitOn '/' t).filter (· != [])
  | 0 => rfl
  | n + 1 => by
    rw [List.replicate_succ, List.cons_append, Text.splitOn_cons_self,
      List.filter_cons_of_neg (by simp), filter_splitOn_replicate t n]

/-- **The text of a path, cut at its slashes, has the components of the path.** -/
theorem pieces_text {p : Path} (hp : p.Proper) (h : p.parts ≠ []) :
    (Text.splitOn '/' p.text).filter (· != []) = p.parts := by
  rw [text_eq h, filter_splitOn_replicate, Text.splitOn_intercalate '/' h fun c hc => (hp c hc).noSlash]
  exact List.filter_eq_self.mpr fun c hc => by simpa using (hp c hc).ne_nil

theorem head?_intercalate_ne {parts : List Text} (h : ∀ c ∈ parts, IsPart c) :
    (['/'].intercalate parts).head? ≠ some '/' := by
  cases parts with
  | nil => simp
  | cons c rest =>
    have hc := h c List.mem_cons_self
    obtain ⟨a, as, rfl⟩ := List.exists_cons_of_ne_nil hc.ne_nil
    have ha : a ≠ '/' := fun he => hc.noSlash (by simp [he])
    cases rest with
    | nil => simpa using ha
    | cons d rest => simpa [List.intercalate_cons_cons] using ha

/-- The text of a path starts with a slash if the path starts at the root. -/
theorem head?_text {p : Path} (hp : p.Proper) (h : p.parts ≠ []) :
    p.text.head? = some '/' ↔ p.slashes ≠ 0 := by
  rw [text_eq h]
  cases hs : p.slashes with
  | zero => simpa using head?_intercalate_ne hp
  | succ n => simp [List.replicate_succ]

theorem getLast?_intercalate {parts : List Text} {last : Text} (hlast : last ≠ []) :
    (['/'].intercalate (parts ++ [last])).getLast? = last.getLast? := by
  induction parts with
  | nil => simp
  | cons c rest ih =>
    rw [List.cons_append, List.intercalate_cons_of_ne_nil (by simp), List.append_assoc,
      List.getLast?_append_of_ne_nil, List.getLast?_append_of_ne_nil, ih]
    · intro hnil
      rw [hnil] at ih
      exact hlast (List.getLast?_eq_none_iff.mp ih.symm)
    · simp

/-- No slash ends the text of a path with a name. -/
theorem getLast?_text_ne {p : Path} (hp : p.Proper) (h : p.parts ≠ []) :
    p.text.getLast? ≠ some '/' := by
  have hname := isPart_name hp h
  have hlast : (['/'].intercalate p.parts).getLast? = p.name.getLast? := by
    rw [parts_eq_parent_name h, getLast?_intercalate hname.ne_nil]
  rw [text_eq h, List.getLast?_append_of_ne_nil, hlast]
  · intro hslash
    exact hname.noSlash (List.mem_of_getLast? hslash)
  · intro hnil
    rw [hnil] at hlast
    exact hname.ne_nil (List.getLast?_eq_none_iff.mp hlast.symm)

theorem prefix_intercalate (last : Text) : ∀ parts : List Text,
    ['/'].intercalate parts <+: ['/'].intercalate (parts ++ [last])
  | [] => List.nil_prefix
  | [c] => by
    rw [List.singleton_append, List.intercalate_cons_cons, List.intercalate_singleton, List.append_assoc]
    exact List.prefix_append _ _
  | c :: d :: rest => by
    rw [List.cons_append, List.cons_append, List.intercalate_cons_cons, List.intercalate_cons_cons,
      ← List.cons_append]
    exact (List.prefix_append_right_inj _).mpr (prefix_intercalate last (d :: rest))

/-- The text of a path from the root goes on from that of the path to its folder. -/
theorem prefix_text_parent {p : Path} (hs : p.slashes ≠ 0) (h : p.parts ≠ []) :
    p.parent.text <+: p.text := by
  have hparent :
      p.parent.text = List.replicate p.slashes '/' ++ ['/'].intercalate p.parent.parts := by
    rw [text, if_neg]
    · rfl
    · intro hcurrent
      exact hs (congrArg slashes hcurrent)
  have hparts : ['/'].intercalate p.parts = ['/'].intercalate (p.parent.parts ++ [p.name]) := by
    rw [← parts_eq_parent_name h]
  rw [hparent, text_eq h, hparts]
  exact (List.prefix_append_right_inj _).mpr (prefix_intercalate _ _)

/-- What stands in a component stands in the text of the path. -/
theorem mem_text_of_mem {p : Path} {a : Char} {c : Text} (ha : a ∈ c) (hc : c ∈ p.parts) :
    a ∈ p.text := by
  rw [text_eq (List.ne_nil_of_mem hc)]
  exact List.mem_append_right _ (Text.mem_intercalate_of_mem '/' ha hc)

/-- A text shows nothing but the components of its path, slashes and, of the current folder, a dot. -/
theorem of_mem_text {p : Path} {a : Char} (h : a ∈ p.text) :
    a = '.' ∨ a = '/' ∨ ∃ c ∈ p.parts, a ∈ c := by
  unfold text at h
  split at h
  · exact Or.inl (List.mem_singleton.mp h)
  · rcases List.mem_append.mp h with h | h
    · exact Or.inr (Or.inl (List.eq_of_mem_replicate h))
    · exact Or.inr (Text.of_mem_intercalate '/' h)

end Courier.Path
