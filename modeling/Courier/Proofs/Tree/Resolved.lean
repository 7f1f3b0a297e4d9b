import Courier.Proofs.Tree.Operations

/-!
# Paths with their dots resolved

To go down into folders and up again is to take components back: where a path leads, it
leads to what is left of its components when each `..` takes back the one before it. An
absolute path has no `..` left, and leads to its own components, if to anything. Where
the folder from which paths are read can be reached from the root, so can all
that they lead to.

Key definitions: `Tree.Reached`, `Tree.Based`.
Key theorems: `Path.up_notMem_absolute`, `Tree.locate_resolved`, `Tree.route_resolved`,
`Tree.route_of_resolved`, `Tree.Based.reached_of_route`, `Tree.Based.route_absolute`.
-/

namespace Courier

namespace Path

variable {acc cs : List Text}

/-- Without `..` nothing is taken back. -/
theorem foldl_resolveStep (h : up ∉ cs) : cs.foldl resolveStep acc = acc ++ cs := by
  induction cs generalizing acc with
  | nil => simp
  | cons c cs ih =>
    rw [List.mem_cons, not_or] at h
    have hstep : resolveStep acc c = acc ++ [c] := if_neg (Ne.symm h.1)
    rw [List.foldl_cons, hstep, ih h.2, List.append_assoc]
    rfl

/-- What is left holds no `..`. -/
theorem up_notMem_foldl (h : up ∉ acc) (cs : List Text) : up ∉ cs.foldl resolveStep acc := by
  induction cs generalizing acc with
  | nil => exact h
  | cons c cs ih =>
    refine ih ?_
    unfold resolveStep
    by_cases hc : c = up
    · rw [if_pos hc]
      exact fun hmem => h (List.dropLast_subset _ hmem)
    · rw [if_neg hc]
      simpa [h] using Ne.symm hc

theorem up_notMem_absolute (base p : Path) : up ∉ (absolute base p).parts :=
  up_notMem_foldl List.not_mem_nil _

theorem mem_of_mem_foldl {c : Text} (h : c ∈ cs.foldl resolveStep acc) : c ∈ acc ∨ c ∈ cs := by
  induction cs generalizing acc with
  | nil => exact Or.inl h
  | cons d cs ih =>
    rcases ih h with h | h
    · unfold resolveStep at h
      split at h
      · exact Or.inl (List.dropLast_subset _ h)
      · rcases List.mem_append.mp h with h | h
        · exact Or.inl h
        · exact Or.inr (List.mem_singleton.mp h ▸ List.mem_cons_self)
    · exact Or.inr (List.mem_cons_of_mem _ h)

/-- An absolute path has no other components than the two that it is made from. -/
theorem mem_of_mem_absolute {base p : Path} {c : Text} (h : c ∈ (absolute base p).parts) :
    c ∈ base.parts ∨ c ∈ p.parts := by
  have hjoined : c ∈ (base.join p).parts := (mem_of_mem_foldl h).resolve_left List.not_mem_nil
  unfold join at hjoined
  split at hjoined
  · exact List.mem_append.mp hjoined
  · exact Or.inr hjoined

/-- An absolute path starts at the root. -/
theorem slashes_absolute (base p : Path) (h : base.slashes ≠ 0) :
    (absolute base p).slashes ≠ 0 := by
  show (base.join p).slashes ≠ 0
  unfold join
  by_cases hs : p.slashes = 0
  · rwa [if_pos hs]
  · rwa [if_neg hs]

end Path

namespace Tree

variable {t t' : Tree} {p : Path} {r : Route}

/-- Where components lead from a folder is what is left of them behind its own. The induction
is on the components, with the folder that they have come to as what was left so far. -/
theorem locate_resolved : ∀ {cs : List Text} {here : Route}, locate t here cs = .ok r →
    r = (cs.foldl Path.resolveStep here.reverse).reverse
  | [], here, h => by
    rw [List.foldl_nil, List.reverse_reverse]
    exact (Except.ok.inj h).symm
  | c :: cs, here, h => by
    obtain ⟨-, ⟨rfl, hrest⟩ | ⟨hup, -, hrest⟩⟩ := (locate_cons t here c cs r).mp h
    · have hstep : Path.resolveStep here.reverse Path.up = here.tail.reverse := by
        rw [Path.resolveStep, if_pos rfl, List.dropLast_reverse]
      rw [List.foldl_cons, hstep]
      exact locate_resolved hrest
    · have hstep : Path.resolveStep here.reverse c = (c :: here).reverse := by
        rw [Path.resolveStep, if_neg hup, List.reverse_cons]
      rw [List.foldl_cons, hstep]
      exact locate_resolved hrest

/-- **A path leads to the components of its absolute form,** where it leads to something. -/
theorem route_resolved (hbase : Path.up ∉ t.base) (hr : t.route p = .ok r) :
    r = (Path.absolute t.basePath p).parts.reverse := by
  have hlocate := locate_resolved (route_eq_ok.mp hr).2
  rw [hlocate, Path.absolute, Path.join, origin]
  by_cases hs : p.slashes = 0
  · have hown : Path.up ∉ t.base.reverse := fun hmem => hbase (List.mem_reverse.mp hmem)
    have hstart : t.base.reverse.foldl Path.resolveStep [] = t.base.reverse :=
      Path.foldl_resolveStep hown
    rw [if_pos hs, if_pos hs]
    show _ = ((t.base.reverse ++ p.parts).foldl Path.resolveStep []).reverse
    rw [List.foldl_append, hstart]
  · rw [if_neg hs, if_neg hs, List.reverse_nil]

/-- A path from the root without `..` leads to its own components. -/
theorem route_of_resolved (hs : p.slashes ≠ 0) (hup : Path.up ∉ p.parts) (hr : t.route p = .ok r) :
    r = p.parts.reverse := by
  have hlocate := locate_resolved (route_eq_ok.mp hr).2
  rw [hlocate, origin, if_neg hs, List.reverse_nil, Path.foldl_resolveStep hup, List.nil_append]

/-! ### What can be reached from the root -/

/-- The route is the one to which its own components lead from the root. -/
def Reached (t : Tree) (r : Route) : Prop := locate t [] r.reverse = .ok r

/-- Relative paths are read from a folder that stands and can be reached, by a path that
the system takes. -/
structure Based (t : Tree) : Prop where
  reached : t.Reached t.base
  entry : t.entry? t.base = some .folder
  noNull : hasNull t.basePath = false

theorem Reached.up_notMem (h : t.Reached r) : Path.up ∉ r := by
  rw [locate_resolved h, List.mem_reverse]
  exact Path.up_notMem_foldl List.not_mem_nil _

/-- Above what is reached stands a folder, which is reached itself. -/
theorem Reached.above (h : t.Reached r) : t.Reached r.tail ∧ t.entry? r.tail = some .folder := by
  cases r with
  | nil => exact ⟨h, entry?_root t⟩
  | cons c above =>
    have hup : c ≠ Path.up := fun heq => h.up_notMem (heq ▸ List.mem_cons_self)
    have hlast :
        (locate t [] above.reverse).bind (fun here => locate t here [c]) = .ok (c :: above) := by
      rw [← locate_append, ← List.reverse_cons]
      exact h
    cases habove : locate t [] above.reverse with
    | error code =>
      rw [habove] at hlast
      exact absurd hlast (by simp [Except.bind])
    | ok here =>
      rw [habove] at hlast
      obtain ⟨hentry, ⟨hc, -⟩ | ⟨-, -, hsame⟩⟩ := (locate_cons t here c [] _).mp hlast
      · exact absurd hc hup
      · obtain rfl : here = above := (List.cons.inj (Except.ok.inj hsame)).2
        exact ⟨habove, hentry⟩

/-- What components lead to from a route that is reached is reached. -/
theorem Reached.locate : ∀ {cs : List Text} {here : Route}, t.Reached here →
    locate t here cs = .ok r → t.Reached r
  | [], here, h, hr => by
    rw [← Except.ok.inj hr]
    exact h
  | c :: cs, here, h, hr => by
    obtain ⟨hentry, ⟨-, hrest⟩ | ⟨hup, hsize, hrest⟩⟩ := (locate_cons t here c cs r).mp hr
    · exact Reached.locate h.above.1 hrest
    · refine Reached.locate ?_ hrest
      have hhere : Tree.locate t [] here.reverse = .ok here := h
      unfold Reached
      rw [List.reverse_cons, locate_append, hhere]
      exact (locate_cons t here c [] _).mpr ⟨hentry, Or.inr ⟨hup, hsize, rfl⟩⟩

/-- Whatever a path leads to is reached. -/
theorem Based.reached_of_route (h : t.Based) (hr : t.route p = .ok r) : t.Reached r := by
  refine Reached.locate ?_ (route_eq_ok.mp hr).2
  unfold origin
  by_cases hs : p.slashes = 0
  · rw [if_pos hs]
    exact h.reached
  · rw [if_neg hs]
    exact rfl

/-- **The absolute form of a path leads where the path does,** unless it is too long. -/
theorem Based.route_absolute (h : t.Based) (hr : t.route p = .ok r)
    (hsize : Utf8.size (Path.absolute t.basePath p).text ≤ maxPathSize) :
    t.route (Path.absolute t.basePath p) = .ok r := by
  have hparts : (Path.absolute t.basePath p).parts = r.reverse := by
    rw [route_resolved h.reached.up_notMem hr, List.reverse_reverse]
  refine route_eq_ok.mpr ⟨hsize, ?_⟩
  rw [origin, if_neg (Path.slashes_absolute _ p Nat.one_ne_zero), hparts]
  exact h.reached_of_route hr

theorem Based.hasNull_absolute (h : t.Based) (hp : hasNull p = false) :
    hasNull (Path.absolute t.basePath p) = false := by
  refine List.any_eq_false.mpr fun c hc => ?_
  rcases Path.mem_of_mem_absolute hc with hc | hc
  · exact List.any_eq_false.mp h.noNull c hc
  · exact List.any_eq_false.mp hp c hc

end Tree
end Courier
