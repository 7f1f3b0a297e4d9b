import Courier.Form

/-!
# What a form lacks

A form lacks nothing exactly when it has a schema file and its project name is
more than white space, and then it has a payload.

Key theorems: `Form.problem?_eq_none`, `Form.problem?_eq_noSchema`, `Form.problem?_eq_noProject`,
`Form.payload_eq_error`.
-/

namespace Courier.Form

variable {form : Form}

theorem problem?_eq_none :
    form.problem? = none ↔ form.schema ≠ none ∧ form.trimmedProject ≠ [] := by
  unfold problem?
  cases form.schema <;> simp

theorem problem?_eq_noSchema : form.problem? = some .noSchema ↔ form.schema = none := by
  unfold problem?
  cases form.schema <;> simp

theorem problem?_eq_noProject :
    form.problem? = some .noProject ↔ form.schema ≠ none ∧ form.trimmedProject = [] := by
  unfold problem?
  cases form.schema <;> simp

theorem payload_eq_error {f : Fault} :
    form.payload = .error f ↔ form.schema = none ∧ f = .noSchema := by
  unfold payload
  cases form.schema <;> simp [eq_comm]

/-- What a form lacks is told in words. -/
theorem Problem.message_ne_nil (problem : Problem) : problem.message ≠ [] := by
  cases problem <;> decide

/-- A form that lacks nothing. -/
def shop : Form where
  schema := some ⟨"s.sql".toList, [], []⟩
  project := some "shop".toList
  overrides := none

end Courier.Form
