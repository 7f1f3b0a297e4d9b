import Courier.Proofs.Settings.Precedence

/-!
# Settings that the caller gives

The variable of a setting that the caller gives says nothing about the settings: where there are
settings in two environments that agree on all other variables, they are the same. But the
timeout in the environment is read whether it counts or not, and where it is a text that is no
number there are no settings at all.

Key definitions: `Overrides.Covers`, `Overrides.Agree`, `Settings.Unreadable`.
Key theorems: `Settings.fromEnvironment_eq_error`, `Settings.fromEnvironment_agree`,
`Settings.covered_variables_ignored`.
-/

namespace Courier

namespace Overrides

variable {o : Overrides} {env env' : Environment}

/-- The variable is that of a setting that the caller gives. -/
def Covers (o : Overrides) (variable_ : Text) : Prop :=
  variable_ = Settings.baseUrlVariable ∧ o.baseUrl ≠ .none ∨
    variable_ = Settings.outputFolderVariable ∧ o.outputFolder ≠ .none ∨
    variable_ = Settings.timeoutVariable ∧ o.timeout ≠ .none

/-- The environments have the same variables but for those that the caller covers. -/
def Agree (o : Overrides) (env env' : Environment) : Prop :=
  ∀ variable_, ¬o.Covers variable_ → env.lookup variable_ = env'.lookup variable_

theorem Agree.baseUrl (h : o.Agree env env') (ho : o.baseUrl = .none) :
    env.lookup Settings.baseUrlVariable = env'.lookup Settings.baseUrlVariable := by
  refine h _ ?_
  rintro (⟨-, hne⟩ | ⟨heq, -⟩ | ⟨heq, -⟩)
  · exact hne ho
  · exact absurd heq (by decide)
  · exact absurd heq (by decide)

theorem Agree.outputFolder (h : o.Agree env env') (ho : o.outputFolder = .none) :
    env.lookup Settings.outputFolderVariable = env'.lookup Settings.outputFolderVariable := by
  refine h _ ?_
  rintro (⟨heq, -⟩ | ⟨-, hne⟩ | ⟨heq, -⟩)
  · exact absurd heq (by decide)
  · exact hne ho
  · exact absurd heq (by decide)

theorem Agree.timeout (h : o.Agree env env') (ho : o.timeout = .none) :
    env.lookup Settings.timeoutVariable = env'.lookup Settings.timeoutVariable := by
  refine h _ ?_
  rintro (⟨heq, -⟩ | ⟨heq, -⟩ | ⟨-, hne⟩)
  · exact absurd heq (by decide)
  · exact absurd heq (by decide)
  · exact hne ho

end Overrides

namespace Settings

variable {env env' : Environment} {o : Overrides} {s s' : Settings} {f : Fault} {variable_ : Text}

theorem filled?_congr (h : env.lookup variable_ = env'.lookup variable_) :
    filled? env variable_ = filled? env' variable_ := by
  rw [filled?, filled?, h]

/-- A setting that is given settles without its variable, and any other has the same text. -/
theorem or_filled?_congr {α : Type} {given : Option α} (read : Option Text → Option α)
    (h : given = none → env.lookup variable_ = env'.lookup variable_) :
    given.or (read (filled? env variable_)) = given.or (read (filled? env' variable_)) := by
  cases given with
  | some a => rw [Option.some_or, Option.some_or]
  | none => rw [filled?_congr (h rfl)]

/-! ### The timeout in the environment -/

/-- The timeout in the environment is a text that is no number. -/
def Unreadable (env : Environment) (raw : Text) : Prop :=
  filled? env timeoutVariable = some raw ∧ Decimal.readFloat? raw = none

theorem environmentTimeout_congr (h : env.lookup timeoutVariable = env'.lookup timeoutVariable) :
    environmentTimeout env = environmentTimeout env' := by
  rw [environmentTimeout, environmentTimeout, filled?_congr h]

theorem environmentTimeout_eq_error :
    environmentTimeout env = .error f ↔ ∃ raw, Unreadable env raw ∧ f = .badTimeout raw := by
  unfold environmentTimeout Unreadable
  cases hraw : filled? env timeoutVariable with
  | none => simp
  | some raw =>
    cases hx : Decimal.readFloat? raw with
    | none => simp [hx, eq_comm]
    | some x => simp [hx]

/-- **There are no settings exactly where the timeout in the environment is unreadable,** whatever
the caller gives. -/
theorem fromEnvironment_eq_error :
    fromEnvironment env o = .error f ↔ ∃ raw, Unreadable env raw ∧ f = .badTimeout raw := by
  rw [← environmentTimeout_eq_error, fromEnvironment]
  cases environmentTimeout env <;> simp

/-! ### What is given -/

theorem fromEnvironment_eq_ok : fromEnvironment env o = .ok s ↔
    ∃ timeout, environmentTimeout env = .ok timeout ∧ s = {
      baseUrl := (o.baseUrl.or (filled? env baseUrlVariable)).getD default.baseUrl
      endpoint := o.endpoint.getD default.endpoint
      fallbackName := o.fallbackName.getD default.fallbackName
      outputFolder :=
        (o.outputFolder.or ((filled? env outputFolderVariable).map Path.ofText)).getD
          default.outputFolder
      timeout := o.timeout.or timeout } := by
  rw [fromEnvironment]
  cases environmentTimeout env <;> simp [eq_comm]

/-- **What the caller gives stands.** -/
theorem fromEnvironment_gives (h : fromEnvironment env o = .ok s) :
    (∀ a, o.baseUrl = some a → s.baseUrl = a) ∧ (∀ a, o.outputFolder = some a → s.outputFolder = a) ∧
      ∀ x, o.timeout = some x → s.timeout = some x := by
  obtain ⟨timeout, -, rfl⟩ := fromEnvironment_eq_ok.mp h
  refine ⟨fun a ha => ?_, fun a ha => ?_, fun x hx => ?_⟩
  · simp [ha]
  · simp [ha]
  · simp [hx]

/-- Settings from environments that agree are the same. -/
theorem fromEnvironment_agree (hagree : o.Agree env env') (h : fromEnvironment env o = .ok s)
    (h' : fromEnvironment env' o = .ok s') : s = s' := by
  obtain ⟨timeout, htimeout, rfl⟩ := fromEnvironment_eq_ok.mp h
  obtain ⟨timeout', htimeout', rfl⟩ := fromEnvironment_eq_ok.mp h'
  have haddress : o.baseUrl.or (filled? env baseUrlVariable) =
      o.baseUrl.or (filled? env' baseUrlVariable) :=
    or_filled?_congr id hagree.baseUrl
  have hfolder := or_filled?_congr (Option.map Path.ofText) hagree.outputFolder
  have htime : o.timeout.or timeout = o.timeout.or timeout' := by
    cases hgiven : o.timeout with
    | some x => rw [Option.some_or, Option.some_or]
    | none =>
      have hread := environmentTimeout_congr (hagree.timeout hgiven)
      rw [Except.ok.inj (htimeout.symm.trans (hread.trans htimeout'))]
  rw [haddress, hfolder, htime]

/-- Where no timeout is given, environments that agree have the same outcome, settings or fault. -/
theorem fromEnvironment_agree_untimed (hagree : o.Agree env env') (ho : o.timeout = none) :
    fromEnvironment env o = fromEnvironment env' o := by
  have hread := environmentTimeout_congr (hagree.timeout ho)
  cases htimeout : environmentTimeout env' with
  | error f => rw [fromEnvironment, fromEnvironment, hread, htimeout]
  | ok timeout =>
    have h := fromEnvironment_eq_ok (o := o).mpr ⟨timeout, hread.trans htimeout, rfl⟩
    have h' := fromEnvironment_eq_ok (o := o).mpr ⟨timeout, htimeout, rfl⟩
    rw [h, h', fromEnvironment_agree hagree h h']

/-- **The variable of a setting that the caller gives counts for nothing in the settings.** In two
environments that agree on all other variables there are the same settings, wherever there are
settings in both, and what the caller gives stands in them. There are none exactly where the
timeout in the environment is a text that is no number, and that fault names the text. So only
where the caller gives a timeout can the outcomes differ at all, by that fault. -/
theorem covered_variables_ignored {env env' : Environment} {o : Overrides}
    (hagree : o.Agree env env') :
    (o.timeout = none → fromEnvironment env o = fromEnvironment env' o) ∧
    (∀ s s', fromEnvironment env o = .ok s → fromEnvironment env' o = .ok s' → s = s') ∧
    (∀ s, fromEnvironment env o = .ok s → (∀ a, o.baseUrl = some a → s.baseUrl = a) ∧
      (∀ p, o.outputFolder = some p → s.outputFolder = p) ∧
      ∀ x, o.timeout = some x → s.timeout = some x) ∧
    ∀ f, fromEnvironment env o = .error f ↔ ∃ raw, Unreadable env raw ∧ f = .badTimeout raw :=
  ⟨fromEnvironment_agree_untimed hagree, fun _ _ h h' => fromEnvironment_agree hagree h h',
    fun _ h => fromEnvironment_gives h, fun _ => fromEnvironment_eq_error⟩

/-- A caller that gives the address and the output folder. -/
def addressed : Overrides :=
  { Overrides.none with
    baseUrl := some "http://given".toList
    outputFolder := some (.ofText "given".toList) }

/-- An environment with an address, an output folder and a timeout. -/
def settled : Environment :=
  [(baseUrlVariable, "http://standing".toList), (outputFolderVariable, "standing".toList),
    (timeoutVariable, "30".toList)]

theorem agree_addressed : addressed.Agree settled [(timeoutVariable, "30".toList)] := by
  intro k hk
  have hurl : k ≠ baseUrlVariable := fun h => hk (.inl ⟨h, by decide⟩)
  have hfolder : k ≠ outputFolderVariable := fun h => hk (.inr (.inl ⟨h, by simp [addressed]⟩))
  simp [settled, List.lookup_cons, beq_eq_false_iff_ne.mpr hurl, beq_eq_false_iff_ne.mpr hfolder]

/-- An address and an output folder in the environment count for nothing where both are given. -/
theorem addressed_ignores_settled :
    addressed.Agree settled [(timeoutVariable, "30".toList)] ∧
    fromEnvironment settled addressed =
      fromEnvironment [(timeoutVariable, "30".toList)] addressed ∧
    ∀ s, fromEnvironment settled addressed = .ok s → s.baseUrl = "http://given".toList := by
  obtain ⟨hsame, -, hgiven, -⟩ := covered_variables_ignored agree_addressed
  exact ⟨agree_addressed, hsame rfl, fun s hs => (hgiven s hs).1 _ rfl⟩

/-- A caller that gives a timeout. -/
def timed : Overrides := { Overrides.none with timeout := some 5 }

/-- A timeout in the environment that is no number is a fault also where a timeout is given. -/
theorem given_timeout_spoilt :
    timed.Agree [(timeoutVariable, "soon".toList)] [] ∧
    fromEnvironment [(timeoutVariable, "soon".toList)] timed =
      .error (.badTimeout "soon".toList) ∧
    ∃ s, fromEnvironment [] timed = .ok s ∧ s.timeout = some 5 := by
  refine ⟨fun k hk => ?_, ?_, _, rfl, rfl⟩
  · have hne : k ≠ timeoutVariable := fun h => hk (.inr (.inr ⟨h, by simp [timed]⟩))
    simp [List.lookup_cons, beq_eq_false_iff_ne.mpr hne]
  · refine fromEnvironment_eq_error.mpr ⟨"soon".toList, ⟨rfl, ?_⟩, rfl⟩
    decide +kernel

end Settings
end Courier
