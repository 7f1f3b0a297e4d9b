import Courier.Http.Message
import Courier.Proofs.Fault

/-!
# Bodies as they are read

A body is read when its codings can be undone and it did not break off. Where the header
fields name no coding, it is what its chunks hold, one after another.

Key theorems: `Response.read_eq_ok`, `Response.read_eq_error`, `Response.read_uncoded`,
`Response.textOf_eq_error`.
-/

namespace Courier

theorem Charset.nameIn_eq_error {codecs : Codecs} {encoding value : Text} {f : Fault}
    (h : nameIn codecs encoding value = .error f) : f = .nullInEncoding := by
  unfold nameIn at h
  split at h
  · exact (Except.error.inj h).symm
  · exact absurd h (by simp)

/-- The encoding of a body cannot be made out where the parameters of its media type cannot,
or where a name in them holds the null character. -/
theorem Charset.ofHeaders_eq_error {codecs : Codecs} {hs : Headers} {f : Fault}
    (h : ofHeaders codecs hs = .error f) : (∃ g, f = .parameter g) ∨ f = .nullInEncoding := by
  unfold ofHeaders at h
  split at h
  · exact absurd h (by simp)
  · rcases bind_eq_error h with hfind | ⟨value?, -, h⟩
    · exact .inl (mapError_eq_error hfind)
    · rcases bind_eq_error h with hname | ⟨name?, -, h⟩
      · cases value? with
        | none => cases hname
        | some value =>
          cases value with
          | plain name => cases hname
          | encoded encoding name => exact .inr (nameIn_eq_error (map_eq_error hname))
      · exact absurd h (by simp [pure, Except.pure])

theorem Codecs.read_eq_error {codecs : Codecs} {name? : Option Text} {body : Bytes} {f : Fault}
    (h : codecs.read name? body = .error f) : f = .nullInEncoding ∨
      ∃ name reading, codecs.lenient name = some reading ∧ reading body = .error f := by
  unfold Codecs.read at h
  split at h
  · exact absurd h (by simp)
  · rename_i name
    split at h
    · exact .inl (Except.error.inj h).symm
    · split at h
      · exact absurd h (by simp)
      · rename_i reading _ hreading
        exact .inr ⟨name, reading, hreading, h⟩
      · exact absurd h (by simp)

namespace Response

variable {r : Response} {body : Bytes} {f : Fault}

theorem read_eq_ok : r.read = .ok body ↔ r.arrived = .ok body ∧ r.failure = none := by
  unfold read
  cases r.arrived with
  | error g => simp
  | ok arrived => cases r.failure <;> simp

theorem read_eq_error : r.read = .error f ↔
    r.arrived = .error f ∨ (∃ arrived, r.arrived = .ok arrived) ∧ r.failure = some f := by
  unfold read
  cases r.arrived with
  | error g => simp
  | ok arrived => cases r.failure <;> simp

theorem arrived_eq_error (h : r.arrived = .error f) : ∃ flaw, f = .coding flaw :=
  mapError_eq_error h

/-- What arrives without a coding is what the chunks hold. -/
theorem arrived_uncoded (h : r.headers.codings = []) : r.arrived = .ok r.chunks.flatten := by
  have hcoders : r.headers.coders = [] := by rw [Headers.coders, h]; rfl
  have hchunks : (r.chunks.filter (· ≠ [])).flatten = r.chunks.flatten :=
    List.flatten_filter_ne_nil
  rw [arrived, hcoders, Coder.undoAll_nil, hchunks]
  rfl

/-- **A body without codings is the chunks put together,** if it did not break off. -/
theorem read_uncoded (h : r.headers.codings = []) :
    r.read = .ok body ↔ r.failure = none ∧ body = r.chunks.flatten := by
  rw [read_eq_ok, arrived_uncoded h, Except.ok.injEq, and_comm, @eq_comm _ body]

/-- A text cannot be read where its encoding cannot be made out, or a further encoding fails. -/
theorem textOf_eq_error {codecs : Codecs} (h : r.textOf codecs body = .error f) :
    (∃ g, f = .parameter g) ∨ f = .nullInEncoding ∨
      ∃ name reading, codecs.lenient name = some reading ∧ reading body = .error f := by
  unfold textOf at h
  split at h
  · exact absurd h (by simp)
  · split at h
    · rename_i hname
      obtain rfl := Except.error.inj h
      exact (Charset.ofHeaders_eq_error hname).imp_right .inl
    · exact .inr (Codecs.read_eq_error h)

end Response
end Courier
