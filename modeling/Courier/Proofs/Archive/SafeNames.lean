import Courier.Proofs.Archive.Candidates

/-!
# What a safe name depends on

Of a file name only the last component counts, so a folder put before it, with a separator of
any system, changes nothing as long as the file name has a component of its own. Making a
name safe is a projection: a name made safe once stays as it is.

Key definition: `Archive.HasComponent`.
Key theorems: `Archive.safeName_under`, `Archive.safeName_eq_fallback`,
`Archive.safeName_projects`.
-/

namespace Courier.Archive

variable {fileName fallback folder : Text} {sep : Char}

/-- Between the separators of a file name stands something else than nothing and a single dot. -/
def HasComponent (fileName : Text) : Prop :=
  ∃ piece ∈ Text.splitOn '/' (fileName.map slashed), piece ≠ [] ∧ piece ≠ ['.']

theorem HasComponent.parts_ne_nil (h : HasComponent fileName) :
    (Path.ofText (fileName.map slashed)).parts ≠ [] := by
  obtain ⟨piece, hpiece, hne⟩ := h
  exact List.ne_nil_of_mem (List.mem_filter.mpr ⟨hpiece, Path.isComponent_iff.mpr hne⟩)

/-- **A folder before a file name changes nothing,** whatever separates the two. -/
theorem safeName_under (hsep : slashed sep = '/') (h : HasComponent fileName) :
    safeName (folder ++ sep :: fileName) fallback = safeName fileName fallback := by
  have hslashed : (folder ++ sep :: fileName).map slashed =
      folder.map slashed ++ '/' :: fileName.map slashed := by
    rw [List.map_append, List.map_cons, hsep]
  have hname : (Path.ofText ((folder ++ sep :: fileName).map slashed)).name =
      (Path.ofText (fileName.map slashed)).name := by
    rw [hslashed, Path.name, Path.name, Path.parts_ofText_append,
      List.getLast?_append_of_ne_nil _ h.parts_ne_nil]
  have hlast : lastComponent (folder ++ sep :: fileName) = lastComponent fileName := by
    rw [lastComponent, lastComponent, hname]
  rw [safeName, safeName, hlast]

/-- The fallback stands in where there is no usable component, and nowhere else; but the
component can be the fallback itself. -/
theorem safeName_eq_fallback : safeName fileName fallback = fallback ↔
    ∀ c, IsLastComponent fileName c → Text.trim c = [] ∨ Text.trim c = ['.'] ∨
      Text.trim c = Path.up ∨ Text.trim c = fallback := by
  rcases safeName_gives fileName fallback with ⟨c, hc, hname, hnil, hdot, hup⟩ | ⟨hun, hname⟩
  · -- there is one last component only, and it is usable
    have hlast : ∀ c', IsLastComponent fileName c' → Text.trim c' = safeName fileName fallback := by
      intro c' hc'
      rw [hname, ← lastComponent_eq hc, lastComponent_eq hc']
    constructor
    · intro h c' hc'
      exact .inr (.inr (.inr ((hlast c' hc').trans h)))
    · intro h
      have hcases := h c hc
      rw [hlast c hc] at hcases
      rcases hcases with h | h | h | h
      · exact absurd h hnil
      · exact absurd h hdot
      · exact absurd h hup
      · exact h
  · refine ⟨fun _ c hc => ?_, fun _ => hname⟩
    have hcases := hun c hc
    tauto

/-- **Making a name safe depends on the last component only, and is a projection.** A folder put
before a file name that has a component changes nothing. What comes out is the trimmed last
component where that is usable and the fallback else, so it is the fallback or a safe
name, and the fallback exactly where the last component is unusable, missing or the fallback
itself. With a safe fallback, a name made safe once stays as it is. -/
theorem safeName_projects (fileName fallback : Text) :
    (∀ (folder : Text) (sep : Char), sep = '/' ∨ sep = '\\' → HasComponent fileName →
      safeName (folder ++ sep :: fileName) fallback = safeName fileName fallback) ∧
    Gives fileName fallback (safeName fileName fallback) ∧
    (safeName fileName fallback = fallback ∨ IsSafe (safeName fileName fallback)) ∧
    (safeName fileName fallback = fallback ↔ ∀ c, IsLastComponent fileName c →
      Text.trim c = [] ∨ Text.trim c = ['.'] ∨ Text.trim c = Path.up ∨ Text.trim c = fallback) ∧
    (IsSafe fallback →
      safeName (safeName fileName fallback) fallback = safeName fileName fallback) := by
  refine ⟨fun folder sep hsep h => safeName_under ?_ h, safeName_gives _ _, safeName_cases _ _,
    safeName_eq_fallback, fun h => safeName_of_isSafe (safeName_isSafe fileName h) fallback⟩
  rcases hsep with rfl | rfl
  · rfl
  · rfl

theorem isSafe_archive : IsSafe "auto-crud.zip".toList := by
  refine ⟨by decide, by decide, ⟨fun c hc => ?_, fun c hc => ?_⟩, by decide, by decide, by decide⟩
  · rw [← Option.some.inj hc]
    decide
  · rw [← Option.some.inj hc]
    decide

/-- Folders of two systems, a dot and white space are taken off, and nothing is left to take off. -/
theorem safeName_of_detour :
    HasComponent "up\\ shop.zip /.".toList ∧ IsSafe "auto-crud.zip".toList ∧
    safeName ("../etc".toList ++ '\\' :: "up\\ shop.zip /.".toList) "auto-crud.zip".toList =
      "shop.zip".toList ∧
    safeName "shop.zip".toList "auto-crud.zip".toList = "shop.zip".toList := by
  have hcomponent : HasComponent "up\\ shop.zip /.".toList := by
    refine ⟨" shop.zip ".toList, ?_, ?_, ?_⟩ <;> decide
  obtain ⟨hunder, -, -, -, hagain⟩ :=
    safeName_projects "up\\ shop.zip /.".toList "auto-crud.zip".toList
  have hsafe : safeName "up\\ shop.zip /.".toList "auto-crud.zip".toList = "shop.zip".toList := by
    decide
  have hagain := hagain isSafe_archive
  rw [hsafe] at hagain
  exact ⟨hcomponent, isSafe_archive, (hunder _ _ (.inr rfl) hcomponent).trans hsafe, hagain⟩

/-- A usable last component can be the fallback itself. -/
theorem fallback_sent_as_name : IsLastComponent "a.zip".toList "a.zip".toList ∧
    ¬(safeName "a.zip".toList "a.zip".toList = "a.zip".toList ↔
      ∀ c, IsLastComponent "a.zip".toList c →
        Text.trim c = [] ∨ Text.trim c = ['.'] ∨ Text.trim c = Path.up) := by
  have hlast : IsLastComponent "a.zip".toList "a.zip".toList := by
    rw [isLastComponent_iff]
    decide
  refine ⟨hlast, fun h => ?_⟩
  have hunusable := h.mp (by decide) _ hlast
  exact absurd hunusable (by decide)

end Courier.Archive
