import Courier.Http.Message
import Courier.Proofs.Fault

/-!
# What a response calls its archive

A response names its archive when the Content-Disposition value holds a name
that is not blank. What it calls the archive is that name without the white
space around it, its percent sequences decoded.

Key definition: `Response.Calls`.
Key theorems: `Disposition.fileName?_eq_some`, `Disposition.fileName?_eq_none`,
`Response.calls_of_fileNameOf`.
-/

namespace Courier

namespace Disposition

variable {value name : Text}

theorem decodeName_eq_ok {raw : Text} : decodeName raw = .ok name ↔
    Percent.isSound raw = true ∧ Percent.decode raw = .ok name := by
  unfold decodeName
  by_cases hsound : Percent.isSound raw = true
  · rw [if_pos hsound]
    cases Percent.decode raw <;> simp [hsound]
  · rw [if_neg hsound]
    simp [hsound]

theorem fileName?_eq_some : fileName? value = .ok (some name) ↔
    ∃ raw, captured value = some raw ∧ Text.trim raw ≠ [] ∧
      Percent.isSound (Text.trim raw) = true ∧ Percent.decode (Text.trim raw) = .ok name := by
  unfold fileName?
  cases hraw : captured value with
  | none => simp
  | some raw =>
    rw [Option.map_some]
    cases htrim : Text.trim raw with
    | nil => simp [htrim]
    | cons c cs =>
      simp only
      rw [map_some_eq_ok, decodeName_eq_ok]
      simp [htrim]

theorem fileName?_eq_none : fileName? value = .ok none ↔
    ∀ raw, captured value = some raw → Text.trim raw = [] := by
  unfold fileName?
  cases hraw : captured value with
  | none => simp
  | some raw =>
    rw [Option.map_some]
    cases htrim : Text.trim raw with
    | nil => simp [htrim]
    | cons c cs => cases hdecode : decodeName (c :: cs) <;> simp [htrim, hdecode, Except.map]

end Disposition

/-- What the response calls its archive: the name in its Content-Disposition value,
decoded, or nothing where the response has no such value or that holds no name. -/
def Response.Calls (r : Response) : Option Text → Prop
  | some name => ∃ value raw, r.headers.get? dispositionField = some value ∧
      Disposition.captured value = some raw ∧ Text.trim raw ≠ [] ∧
      Percent.decode (Text.trim raw) = .ok name
  | none => ∀ value raw, r.headers.get? dispositionField = some value →
      Disposition.captured value = some raw → Text.trim raw = []

theorem Response.calls_of_fileNameOf {r : Response} {name : Option Text}
    (h : fileNameOf (r.headers.get? dispositionField) = .ok name) : r.Calls name := by
  cases hvalue : r.headers.get? dispositionField with
  | none =>
    rw [hvalue] at h
    rw [← Except.ok.inj h]
    exact fun value raw hsome => absurd (hvalue.symm.trans hsome) (by simp)
  | some value =>
    rw [hvalue] at h
    cases name with
    | none =>
      intro value' raw hsome hraw
      obtain rfl := Option.some.inj (hvalue.symm.trans hsome)
      exact Disposition.fileName?_eq_none.mp h raw hraw
    | some name =>
      obtain ⟨raw, hraw, htrim, -, hdecode⟩ := Disposition.fileName?_eq_some.mp h
      exact ⟨value, raw, hvalue, hraw, htrim, hdecode⟩

end Courier
