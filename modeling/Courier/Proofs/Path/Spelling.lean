import Courier.Proofs.Path.Proper

/-!
# Paths that are read back from their texts

A path that a text spells has at most two slashes in front and proper components.
Such a path is what its own text spells. Home folders and joined paths are such
paths where they are made from such.

Key definition: `Path.Spelled`.
Key theorem: `Path.ofText_text`.
-/

namespace Courier.Path

/-- The path is what some text spells. -/
structure Spelled (p : Path) : Prop where
  proper : p.Proper
  slashes : p.slashes ≤ 2

variable {p q : Path}

theorem spelled_ofText (t : Text) : (ofText t).Spelled := by
  refine ⟨proper_ofText t, ?_⟩
  unfold ofText
  dsimp only
  split <;> decide

theorem spelled_current : current.Spelled := ⟨fun _ hc => absurd hc List.not_mem_nil, by decide⟩

theorem spelled_join (hp : p.Spelled) (hq : q.Spelled) : (p.join q).Spelled := by
  refine ⟨proper_join hp.proper hq.proper, ?_⟩
  unfold join
  split
  · exact hp.slashes
  · exact hq.slashes

theorem spelled_homeFolder (home : Text) : (homeFolder home).Spelled := by
  refine ⟨proper_homeFolder home, ?_⟩
  unfold homeFolder
  split
  · decide
  · exact (spelled_ofText _).slashes

theorem spelled_expandHome {homeOf : Text → Option Text} (hp : p.Spelled)
    (h : p.expandHome homeOf = .ok q) : q.Spelled := by
  refine ⟨proper_expandHome hp.proper h, ?_⟩
  unfold expandHome expandHome? at h
  split at h
  · rename_i r hr
    rw [← Except.ok.inj h]
    split at hr
    · split at hr
      · exact absurd hr (by simp)
      · exact absurd hr (by simp)
      · rw [← Option.some.inj hr, join, if_pos rfl]
        exact (spelled_homeFolder _).slashes
    · rw [← Option.some.inj hr]
      exact hp.slashes
  · exact absurd h (by simp)

/-- The slashes in front of the components are counted again. -/
theorem takeWhile_text (hp : p.Proper) (h : p.parts ≠ []) :
    p.text.takeWhile (· == '/') = List.replicate p.slashes '/' := by
  rw [text_eq h]
  refine Text.takeWhile_run (fun c hc => ?_) fun c hc => ?_
  · rw [List.eq_of_mem_replicate hc]
    rfl
  · have hne : c ≠ '/' := fun heq => head?_intercalate_ne hp (heq ▸ hc)
    simpa using hne

/-- The components are cut out of the text again. -/
theorem filter_isComponent_text (hp : p.Proper) (h : p.parts ≠ []) :
    (Text.splitOn '/' p.text).filter isComponent = p.parts := by
  have hpieces := pieces_text hp h
  have hcomponents : ∀ c ∈ p.parts, isComponent c = true := fun c hc => (hp c hc).isComponent
  calc (Text.splitOn '/' p.text).filter isComponent
      = ((Text.splitOn '/' p.text).filter (· != [])).filter isComponent := by
        rw [List.filter_filter]
        refine List.filter_congr fun c _ => ?_
        unfold isComponent
        cases c <;> simp
    _ = p.parts := by rw [hpieces, List.filter_eq_self.mpr hcomponents]

/-- **A path that a text spells is what its own text spells.** -/
theorem ofText_text (hp : p.Spelled) : ofText p.text = p := by
  have hslashes := hp.slashes
  obtain ⟨slashes, parts⟩ := p
  have hcases : slashes = 0 ∨ slashes = 1 ∨ slashes = 2 := by
    dsimp only at hslashes
    omega
  by_cases h : parts = []
  · subst h
    rcases hcases with rfl | rfl | rfl <;> decide
  · unfold ofText
    rw [takeWhile_text hp.proper h, filter_isComponent_text hp.proper h, List.length_replicate]
    rcases hcases with rfl | rfl | rfl <;> rfl

end Courier.Path
