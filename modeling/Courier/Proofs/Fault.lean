import Courier.Fault

/-!
# Faults and successes

Passing a fault on as another one is no success, and leaves a success alone. An
action that fails does not succeed. What is done in several steps fails where one
of the steps does. Every fault but those that collaborators get wrong can be
described.

Key definition: `Fault.Describable`.
Key theorems: `mapError_ok`, `mapError_error`, `error_ne_ok`, `map_some_eq_ok`, `map_some_eq_error`,
`bind_eq_error`, `mapM_eq_error`, `exists_error_iff`, `mapM_eq_ok`, `Fault.describable_of_words`.
-/

namespace Courier

variable {ε ε' α β σ : Type}

@[simp] theorem mapError_ok (passedOn : ε → ε') (a : α) :
    (Except.ok a : Except ε α).mapError passedOn = .ok a := rfl

@[simp] theorem mapError_error (passedOn : ε → ε') (f : ε) :
    (Except.error f : Except ε α).mapError passedOn = .error (passedOn f) := rfl

theorem error_ne_ok {f : ε} {a : α} {s s' : σ} : ((Except.error f : Except ε α), s) ≠ (.ok a, s') :=
  fun h => nomatch congrArg Prod.fst h

theorem mapError_eq_error {x : Except ε α} {passedOn : ε → ε'} {f : ε'}
    (h : x.mapError passedOn = .error f) : ∃ g, f = passedOn g := by
  cases x with
  | error g => exact ⟨g, (Except.error.inj h).symm⟩
  | ok a => exact absurd h (by simp)

theorem map_eq_error {x : Except ε α} {g : α → β} {f : ε} (h : x.map g = .error f) :
    x = .error f := by
  cases x with
  | error f' => exact congrArg _ (Except.error.inj h)
  | ok a => exact absurd h (by simp [Except.map])

theorem map_some_eq_ok {x : Except ε α} {a : α} : x.map some = .ok (some a) ↔ x = .ok a := by
  cases x <;> simp [Except.map]

theorem map_some_eq_error {x : Except ε α} {f : ε} : x.map some = .error f ↔ x = .error f := by
  cases x <;> simp [Except.map]

theorem bind_eq_error {x : Except ε α} {g : α → Except ε β} {f : ε} (h : x >>= g = .error f) :
    x = .error f ∨ ∃ a, x = .ok a ∧ g a = .error f := by
  cases x with
  | error f' => exact .inl (congrArg _ (Except.error.inj h))
  | ok a => exact .inr ⟨a, rfl, h⟩

theorem mapM_eq_error {g : α → Except ε β} {f : ε} : ∀ {l : List α},
    l.mapM g = .error f → ∃ a ∈ l, g a = .error f
  | [], h => absurd h (by simp [pure, Except.pure])
  | a :: l, h => by
    rw [List.mapM_cons] at h
    rcases bind_eq_error h with h | ⟨b, -, h⟩
    · exact ⟨a, List.mem_cons_self, h⟩
    · rcases bind_eq_error h with h | ⟨bs, -, h⟩
      · obtain ⟨a', hmem, ha'⟩ := mapM_eq_error h
        exact ⟨a', List.mem_cons_of_mem _ hmem, ha'⟩
      · exact absurd h (by simp [pure, Except.pure])

/-- What succeeds in the same cases fails in the same cases. -/
theorem exists_error_iff {x : Except ε α} {y : Except ε' α} (h : ∀ a, x = .ok a ↔ y = .ok a) :
    (∃ f, x = .error f) ↔ ∃ f, y = .error f := by
  cases x with
  | ok a => simp [(h a).mp rfl]
  | error f =>
    cases y with
    | ok a => exact absurd ((h a).mpr rfl) (by simp)
    | error g => simp

/-- Where every step gives something, so does the whole. -/
theorem mapM_eq_ok {g : α → Except ε β} {h : α → β} : ∀ {l : List α}, (∀ a ∈ l, g a = .ok (h a)) →
    l.mapM g = .ok (l.map h)
  | [], _ => rfl
  | a :: l, hall => by
    have hrest := mapM_eq_ok fun b hb => hall b (List.mem_cons_of_mem a hb)
    rw [List.mapM_cons, hall a List.mem_cons_self, hrest]
    rfl

namespace Fault

/-- The fault is no interrupt of the user, and it can be described. -/
def Describable (f : Fault) : Prop := f.isInterrupt = false ∧ ∃ told, f.describe = .ok told

/-- A fault that has words can be described, unless these are blank and its form cannot be
asked for. -/
theorem describable_of_words {f : Fault} {words : Text} (hordinary : f.isInterrupt = false)
    (hwords : f.words = .ok words) (hform : ∀ blank why, f ≠ .formless blank why) :
    f.Describable := by
  refine ⟨hordinary, ?_⟩
  unfold describe
  rw [hwords]
  dsimp only
  split
  · exact ⟨_, rfl⟩
  · exact absurd rfl (hform _ _)
  · exact ⟨_, rfl⟩

theorem describable_coding (flaw : Deflate.Flaw) : (coding flaw).Describable :=
  describable_of_words rfl rfl (by simp)

theorem describable_parameter (g : Parameter.Fault) : (parameter g).Describable :=
  describable_of_words rfl rfl (by simp)

theorem describable_disposition (g : Disposition.Fault) : (disposition g).Describable :=
  describable_of_words rfl rfl (by simp)

theorem describable_nullInEncoding : nullInEncoding.Describable :=
  describable_of_words rfl rfl (by simp)

end Fault

end Courier
