import Courier.Command.Plan
import Courier.Proofs.Path.Spelling

/-!
# The output folder that a command is told

Whether the arguments name the output folder, the environment does or neither,
it is a path that a text spells.

Key definition: `Options.Spelled`.
Key theorems: `Arguments.parse_spelled`, `Options.settings_spelled`, `Options.plan_eq_ok`.
-/

namespace Courier

namespace Options

/-- The output folder, where the options name one, is what some text spells. -/
def Spelled (o : Options) : Prop := ∀ p, o.outputFolder = some p → p.Spelled

variable {o o' : Options}

theorem spelled_none : Options.none.Spelled := fun _ h => absurd h (by simp [Options.none])

theorem apply_spelled (h : o.Spelled) {s : Switch} {value : Text} (hs : o.apply s value = .ok o') :
    o'.Spelled := by
  cases s with
  | help => exact absurd hs (by simp [apply])
  | version => exact absurd hs (by simp [apply])
  | outputFolder =>
    rw [← Except.ok.inj hs]
    intro p hp
    rw [← Option.some.inj hp]
    exact Path.spelled_ofText value
  | timeout =>
    unfold apply at hs
    dsimp only at hs
    split at hs
    · rw [← Except.ok.inj hs]
      exact h
    · exact absurd hs (by simp)
  | project | overrides | address | envFile | debug | silent | logLevel =>
    rw [← Except.ok.inj hs]
    exact h

theorem applyAll_spelled (h : o.Spelled) : ∀ {switches : List (Switch × Text)},
    applyAll switches o = .ok o' → o'.Spelled := by
  intro switches
  induction switches generalizing o with
  | nil =>
    intro hs
    rw [← Except.ok.inj hs]
    exact h
  | cons pair rest ih =>
    intro hs
    obtain ⟨s, value⟩ := pair
    rw [applyAll] at hs
    cases happly : o.apply s value with
    | error stop =>
      rw [happly] at hs
      exact absurd hs (by simp)
    | ok o₁ =>
      rw [happly] at hs
      exact ih (apply_spelled h happly) hs

/-- **The settings of a command save in a folder that a text spells.** -/
theorem settings_spelled (h : o.Spelled) {env : Environment} {settings : Settings}
    (hs : o.settings env = .ok settings) : settings.outputFolder.Spelled := by
  unfold Options.settings Settings.fromEnvironment at hs
  split at hs
  · exact absurd hs (by simp)
  · rw [← Except.ok.inj hs]
    dsimp only [toOverrides]
    cases hfolder : o.outputFolder with
    | some p => exact h p hfolder
    | none =>
      rw [Option.none_or]
      cases Settings.filled? env Settings.outputFolderVariable with
      | some t => exact Path.spelled_ofText t
      | none => exact Path.spelled_current

/-- A plan is made of the checked choices, the settings and the form. -/
theorem plan_eq_ok {schema : Path} {homeOf : Text → Option Text} {t : Tree} {env : Environment}
    {plan : Plan} (h : o.plan schema homeOf t env = .ok plan) :
    Form.checkInput homeOf t "SQL".toList schema = .ok plan.schema ∧
      o.checkedOverrides homeOf t = .ok plan.overrides ∧ o.settings env = .ok plan.settings ∧
      Form.fromPaths t (some plan.schema) (some o.project) plan.overrides = .ok plan.form := by
  unfold Options.plan at h
  split at h
  · exact absurd h (by simp)
  · rename_i hschema
    split at h
    · exact absurd h (by simp)
    · rename_i hoverrides
      split at h
      · exact absurd h (by simp)
      · rename_i hsettings
        split at h
        · exact absurd h (by simp)
        · rename_i hform
          obtain rfl := Except.ok.inj h
          exact ⟨hschema, hoverrides, hsettings, hform⟩

end Options

namespace Arguments

open Options

/-- Taking arguments keeps the output folder spelled. The induction is on the arguments that are
still to be taken; the schema file is no output folder. -/
theorem take_spelled {o o' : Options} (h : o.Spelled) {left : List Text}
    {readings : List (Text × Reading)} (ht : take o left readings = .ok o') : o'.Spelled := by
  fun_induction take o left readings with
  | case1 => exact Except.ok.inj ht ▸ h
  | case3 o left t rest hschema ih => exact ih h ht
  | case4 o left t hschema t' rest ih => exact ih h ht
  | case5 o left t hschema rest hrest ih => exact ih h ht
  | case6 o left t rest ih => exact ih h ht
  | case7 o left t rest ih => exact ih h ht
  | case10 o left t s short attached rest complete hbundle o₁ happly ih =>
    exact ih (applyAll_spelled h happly) ht
  | case12 o left t s short attached complete awaited hbundle value rest o₁ happly ih =>
    exact ih (applyAll_spelled h happly) ht
  | case2 | case8 | case9 | case11 | case13 => exact absurd ht (by simp)

/-- **The arguments of a command name an output folder that a text spells.** -/
theorem parse_spelled {arguments : List Text} {o : Options} (h : parse arguments = .ok o) :
    o.Spelled := by
  unfold parse at h
  split at h
  · exact absurd h (by simp)
  · exact take_spelled spelled_none h

end Arguments
end Courier
