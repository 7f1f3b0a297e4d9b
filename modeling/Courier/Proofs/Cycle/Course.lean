import Courier.Cycle
import Courier.Proofs.Http.Reading

/-!
# The courses that a cycle may take

With surroundings that show every status text, a cycle takes one of four
courses: it ends at once with what the form lacks, it meets a fault, or it ends
with what the server said or with the archive saved. A fault is met at building
the payload, at posting it, at reading a refusal, at receiving the archive or at
saving it.

A fault that is met is described to the user. The user's interrupt is not: it is
passed on, and so is what keeps a fault from being described.

Key definitions: `Cycle.AlwaysShows`, `Cycle.words`, `Cycle.archive`, `Cycle.Met`,
`Cycle.Course`.
Key theorems: `Cycle.Met.run_eq`, `Cycle.run_course`, `Cycle.run_eq_error`,
`Cycle.putAway_eq_ok`, `Cycle.putAway_eq_error`.
-/

namespace Courier

namespace Cycle

variable {σ α β : Type}

/-- The surroundings show every status text without failing. -/
def AlwaysShows (v : Services σ) : Prop := ∀ text s, (v.announce text s).1 = .ok ()

/-- The state after a status text was shown. -/
def shown (v : Services σ) (text : Text) (s : σ) : σ := (v.announce text s).2

theorem AlwaysShows.announce {v : Services σ} (h : AlwaysShows v) (text : Text) (s : σ) :
    v.announce text s = (.ok (), shown v text s) := Prod.ext (h text s) rfl

/-! ### What a response holds -/

/-- What a response that is no success says: its body as text, or its reason
phrase where that is empty. -/
def words (codecs : Codecs) (r : Response) : Except Fault Text := do
  let text ← r.textOf codecs (← r.read)
  return if text = [] then r.phrase else text

/-- The archive in a response, with the name that the response gives to it. -/
def archive (r : Response) : Except Fault (Bytes × Option Text) := do
  let body ← r.read
  let name ← (fileNameOf (r.headers.get? dispositionField)).mapError .disposition
  return (body, name)

theorem refusal_eq (codecs : Codecs) (r : Response) :
    refusal codecs r = (words codecs r).map (.failure r.status) := by
  unfold refusal words
  cases r.read with
  | error f => rfl
  | ok body =>
    simp only [bind, Except.bind]
    cases r.textOf codecs body with
    | error f => rfl
    | ok text => cases text <;> rfl

theorem words_eq_ok {codecs : Codecs} {r : Response} {text : Text} : words codecs r = .ok text ↔
    ∃ body told, r.read = .ok body ∧ r.textOf codecs body = .ok told ∧
      text = if told = [] then r.phrase else told := by
  unfold words
  cases r.read with
  | error f => simp [bind, Except.bind]
  | ok body =>
    cases ht : r.textOf codecs body with
    | error f => simp [ht, bind, Except.bind]
    | ok told => simp [ht, bind, Except.bind, pure, Except.pure, eq_comm]

theorem words_eq_error {codecs : Codecs} {r : Response} {f : Fault} : words codecs r = .error f ↔
    r.read = .error f ∨ ∃ body, r.read = .ok body ∧ r.textOf codecs body = .error f := by
  unfold words
  cases r.read with
  | error f => simp [bind, Except.bind]
  | ok body =>
    cases ht : r.textOf codecs body with
    | error f => simp [ht, bind, Except.bind]
    | ok told => simp [ht, bind, Except.bind, pure, Except.pure]

theorem archive_eq_ok {r : Response} {body : Bytes} {name : Option Text} :
    archive r = .ok (body, name) ↔
      r.read = .ok body ∧ fileNameOf (r.headers.get? dispositionField) = .ok name := by
  unfold archive
  cases r.read with
  | error f => simp [bind, Except.bind]
  | ok bytes =>
    cases hn : fileNameOf (r.headers.get? dispositionField) <;>
      simp [bind, Except.bind, pure, Except.pure]

theorem archive_eq_error {r : Response} {f : Fault} : archive r = .error f ↔
    r.read = .error f ∨ (∃ body, r.read = .ok body) ∧
      ∃ g, fileNameOf (r.headers.get? dispositionField) = .error g ∧ f = .disposition g := by
  unfold archive
  cases r.read with
  | error f => simp [bind, Except.bind]
  | ok bytes =>
    cases hn : fileNameOf (r.headers.get? dispositionField) <;>
      simp [bind, Except.bind, pure, Except.pure, eq_comm]

/-! ### Putting a response away -/

theorem putAway_eq_ok {r : Response} {x : Except Fault α} {a : α} :
    putAway r x = .ok a ↔ r.closing = none ∧ x = .ok a := by
  unfold putAway
  cases r.closing <;> simp

theorem putAway_eq_error {r : Response} {x : Except Fault α} {f : Fault} :
    putAway r x = .error f ↔ r.closing = some f ∨ r.closing = none ∧ x = .error f := by
  unfold putAway
  cases r.closing <;> simp

theorem putAway_map (r : Response) (x : Except Fault α) (g : α → β) :
    putAway r (x.map g) = (putAway r x).map g := by
  unfold putAway
  cases r.closing <;> rfl

/-! ### The courses -/

variable {v : Services σ} {form : Form} {s : σ}

/-- The end of a cycle that met a fault: the fault is logged and shown, unless it
is the user's interrupt, which is passed on, or cannot be described. -/
def ended (v : Services σ) (f : Fault) (s : σ) : Except Fault Unit × σ :=
  if f.isInterrupt then (.error f, s)
  else
    match f.describe with
    | .error why => (.error why, v.note .error failedRecord s)
    | .ok told => (.ok (), shown v (Status.error told) (v.note .error failedRecord s))

/-- The state after a successful response was looked into. -/
def received (v : Services σ) (r : Response) (s : σ) : σ :=
  match archive r with
  | .ok (_, none) => v.note .debug (unnamedRecord v.fallbackName) (shown v Status.generating s)
  | _ => shown v Status.generating s

/-- The form lacks nothing. -/
def Complete (v : Services σ) (form : Form) : Prop :=
  ∀ text, v.problem? form = some text → text = []

/-- The form lacks nothing, and its payload is answered by a response, which
leaves the last state. -/
structure Answered (v : Services σ) (form : Form) (s : σ) (payload : Payload) (r : Response)
    (s' : σ) : Prop where
  complete : Complete v form
  built : v.payload form = .ok payload
  answer : v.post payload (shown v Status.uploading (shown v Status.preparing s)) = (.ok r, s')

/-- The faults that a cycle meets, each with the state in which it meets it. -/
inductive Met (v : Services σ) (form : Form) (s : σ) : Fault → σ → Prop
  | unbuilt {f : Fault} (complete : Complete v form) (fault : v.payload form = .error f) :
    Met v form s f (shown v Status.preparing s)
  | unanswered {payload : Payload} {f : Fault} {s' : σ} (complete : Complete v form)
    (built : v.payload form = .ok payload)
    (fault : v.post payload (shown v Status.uploading (shown v Status.preparing s)) = (.error f, s')) :
    Met v form s f s'
  | unread {payload : Payload} {r : Response} {f : Fault} {s' : σ}
    (answered : Answered v form s payload r s') (refused : r.isSuccess = false)
    (fault : putAway r (words v.codecs r) = .error f) : Met v form s f s'
  | broken {payload : Payload} {r : Response} {f : Fault} {s' : σ}
    (answered : Answered v form s payload r s') (success : r.isSuccess = true)
    (fault : putAway r (archive r) = .error f) : Met v form s f (received v r s')
  | undelivered {payload : Payload} {r : Response} {body : Bytes} {name : Option Text} {f : Fault}
    {s' s'' : σ} (answered : Answered v form s payload r s') (success : r.isSuccess = true)
    (arrived : putAway r (archive r) = .ok (body, name))
    (fault : v.deliver body (name.getD v.fallbackName) (received v r s') = (.error f, s'')) :
    Met v form s f s''

/-- The courses of a cycle, with what comes of each. -/
inductive Course (v : Services σ) (form : Form) (s : σ) : Except Fault Unit × σ → Prop
  | lacking {text : Text} (problem : v.problem? form = some text) (told : text ≠ []) :
    Course v form s (.ok (), shown v text (shown v Status.preparing s))
  | failed {f : Fault} {s₀ : σ} (met : Met v form s f s₀) : Course v form s (ended v f s₀)
  | refused {payload : Payload} {r : Response} {text : Text} {s' : σ}
    (answered : Answered v form s payload r s') (refused : r.isSuccess = false)
    (told : putAway r (words v.codecs r) = .ok text) :
    Course v form s (.ok (), shown v (Status.serverError r.status text) s')
  | delivered {payload : Payload} {r : Response} {body : Bytes} {name : Option Text} {p : Path}
    {s' s'' : σ} (answered : Answered v form s payload r s') (success : r.isSuccess = true)
    (arrived : putAway r (archive r) = .ok (body, name))
    (saved : v.deliver body (name.getD v.fallbackName) (received v r s') = (.ok p, s'')) :
    Course v form s
      (.ok (), shown v Status.downloadStarted (v.note .debug (deliveredRecord p) s''))

/-! ### What is done with an answer -/

theorem receive_success (h : AlwaysShows v) {r : Response} (hr : r.isSuccess = true) (s : σ) :
    receive v r s = ((archive r).map fun a => .success a.1 (a.2.getD v.fallbackName) r.status,
      received v r s) := by
  unfold receive received archive
  rw [if_pos hr, h.announce]
  simp only
  cases r.read with
  | error f => rfl
  | ok body =>
    cases fileNameOf (r.headers.get? dispositionField) with
    | error g => rfl
    | ok name => cases name <;> rfl

theorem receive_refusal {r : Response} (hr : r.isSuccess = false) (s : σ) :
    receive v r s = ((words v.codecs r).map (.failure r.status), s) := by
  rw [receive, if_neg (by simp [hr]), refusal_eq]

variable {payload : Payload} {r : Response} {f : Fault} {s' s₀ : σ}

/-- An answer is looked into and put away, and a cycle concludes with what it holds. -/
theorem Answered.attempt_eq (hv : AlwaysShows v) (ha : Answered v form s payload r s') :
    attempt v form (shown v Status.preparing s) =
      match putAway r (receive v r s').1 with
      | .error f => (.error f, (receive v r s').2)
      | .ok outcome => conclude v outcome (receive v r s').2 := by
  unfold attempt exchange
  rw [ha.built]
  simp only [hv.announce, ha.answer]
  rcases receive v r s' with ⟨outcome, s''⟩
  simp only
  cases putAway r outcome <;> rfl

theorem Answered.attempt_refused (hv : AlwaysShows v) (ha : Answered v form s payload r s')
    (hr : r.isSuccess = false) : attempt v form (shown v Status.preparing s) =
      match putAway r (words v.codecs r) with
      | .error f => (.error f, s')
      | .ok text => (.ok (), shown v (Status.serverError r.status text) s') := by
  rw [ha.attempt_eq hv, receive_refusal hr]
  simp only [putAway_map]
  cases putAway r (words v.codecs r) with
  | error f => rfl
  | ok text => exact hv.announce _ _

theorem Answered.attempt_success (hv : AlwaysShows v) (ha : Answered v form s payload r s')
    (hr : r.isSuccess = true) : attempt v form (shown v Status.preparing s) =
      match putAway r (archive r) with
      | .error f => (.error f, received v r s')
      | .ok (body, name) =>
        match v.deliver body (name.getD v.fallbackName) (received v r s') with
        | (.error f, s'') => (.error f, s'')
        | (.ok p, s'') =>
          (.ok (), shown v Status.downloadStarted (v.note .debug (deliveredRecord p) s'')) := by
  rw [ha.attempt_eq hv, receive_success hv hr]
  simp only [putAway_map]
  cases putAway r (archive r) with
  | error f => rfl
  | ok arrived =>
    obtain ⟨body, name⟩ := arrived
    simp only [Except.map, conclude]
    rcases v.deliver body (name.getD v.fallbackName) (received v r s') with ⟨saved, s''⟩
    cases saved with
    | error f => rfl
    | ok p => exact hv.announce _ _

/-! ### Every cycle takes one of the courses -/

theorem guarded_ok {action : Act σ Unit} (h : action s = (.ok (), s')) :
    guarded v action s = (.ok (), s') := by
  rw [guarded, h]

theorem guarded_error (hv : AlwaysShows v) {action : Act σ Unit} (h : action s = (.error f, s')) :
    guarded v action s = ended v f s' := by
  rw [guarded, h]
  simp only [ended]
  split
  · rfl
  · cases f.describe with
    | error why => rfl
    | ok told => exact hv.announce _ _

/-- A form that lacks nothing is attempted. -/
theorem run_of_complete (hv : AlwaysShows v) (hcomplete : Complete v form) :
    run v form s = guarded v (attempt v form) (shown v Status.preparing s) := by
  unfold run
  rw [hv.announce]
  simp only
  split
  · rename_i c cs hproblem
    exact absurd (hcomplete _ hproblem) (by simp)
  · rfl

/-- A form that lacks something is told so, and that is all. -/
theorem run_of_problem (hv : AlwaysShows v) {text : Text} (hproblem : v.problem? form = some text)
    (htext : text ≠ []) : run v form s = (.ok (), shown v text (shown v Status.preparing s)) := by
  unfold run
  rw [hv.announce, hproblem]
  simp only
  split
  · rename_i hsome
    rw [← Option.some.inj hsome]
    exact hv.announce _ _
  · rename_i hnone
    obtain ⟨c, cs, hcs⟩ := List.exists_cons_of_ne_nil htext
    exact absurd (congrArg some hcs) (hnone c cs)

theorem Met.complete (h : Met v form s f s₀) : Complete v form := by
  cases h with
  | unbuilt complete => exact complete
  | unanswered complete => exact complete
  | unread answered => exact answered.complete
  | broken answered => exact answered.complete
  | undelivered answered => exact answered.complete

/-- The attempt fails with a fault that is met. -/
theorem Met.attempt_eq (hv : AlwaysShows v) (h : Met v form s f s₀) :
    attempt v form (shown v Status.preparing s) = (.error f, s₀) := by
  cases h with
  | unbuilt complete fault => rw [attempt, fault]
  | unanswered complete built fault =>
    unfold attempt exchange
    rw [built]
    simp only [hv.announce, fault]
  | unread answered refused fault => rw [answered.attempt_refused hv refused, fault]
  | broken answered success fault => rw [answered.attempt_success hv success, fault]
  | undelivered answered success arrived fault =>
    rw [answered.attempt_success hv success, arrived]
    simp only [fault]

/-- **A fault that is met ends the cycle.** -/
theorem Met.run_eq (hv : AlwaysShows v) (h : Met v form s f s₀) : run v form s = ended v f s₀ := by
  rw [run_of_complete hv h.complete, guarded_error hv (h.attempt_eq hv)]

/-- What a cycle does with an answer. -/
theorem answered_course (hv : AlwaysShows v) (ha : Answered v form s payload r s') :
    Course v form s (run v form s) := by
  have hmet : ∀ {f s₀}, Met v form s f s₀ → Course v form s (run v form s) := fun hm =>
    (hm.run_eq hv).symm ▸ .failed hm
  have hrun := run_of_complete (s := s) hv ha.complete
  cases hr : r.isSuccess with
  | false =>
    cases hp : putAway r (words v.codecs r) with
    | error f => exact hmet (.unread ha hr hp)
    | ok text =>
      have hattempt := ha.attempt_refused hv hr
      rw [hp] at hattempt
      rw [hrun, guarded_ok hattempt]
      exact .refused ha hr hp
  | true =>
    cases hp : putAway r (archive r) with
    | error f => exact hmet (.broken ha hr hp)
    | ok arrived =>
      obtain ⟨body, name⟩ := arrived
      rcases hd : v.deliver body (name.getD v.fallbackName) (received v r s') with ⟨out, s''⟩
      cases out with
      | error f => exact hmet (.undelivered ha hr hp hd)
      | ok p =>
        have hattempt := ha.attempt_success hv hr
        simp only [hp, hd] at hattempt
        rw [hrun, guarded_ok hattempt]
        exact .delivered ha hr hp hd

/-- **Every cycle takes one of the courses.** -/
theorem run_course (hv : AlwaysShows v) (form : Form) (s : σ) : Course v form s (run v form s) := by
  by_cases hcomplete : Complete v form
  · have hmet : ∀ {f s₀}, Met v form s f s₀ → Course v form s (run v form s) := fun hm =>
      (hm.run_eq hv).symm ▸ .failed hm
    cases hb : v.payload form with
    | error f => exact hmet (.unbuilt hcomplete hb)
    | ok payload =>
      rcases ha : v.post payload (shown v Status.uploading (shown v Status.preparing s)) with ⟨out, s'⟩
      cases out with
      | error f => exact hmet (.unanswered hcomplete hb ha)
      | ok r => exact answered_course hv ⟨hcomplete, hb, ha⟩
  · obtain ⟨text, hproblem, htext⟩ : ∃ text, v.problem? form = some text ∧ text ≠ [] := by
      simpa [Complete] using hcomplete
    rw [run_of_problem hv hproblem htext]
    exact .lacking hproblem htext

/-! ### What a cycle passes on -/

/-- What a cycle passes on of a fault that it met: the user's interrupt, or what keeps the
fault from being described. -/
theorem ended_eq_error {f g : Fault} : ended v f s = (.error g, s') ↔
    f.isInterrupt = true ∧ g = f ∧ s' = s ∨
      f.isInterrupt = false ∧ f.describe = .error g ∧ s' = v.note .error failedRecord s := by
  unfold ended
  cases f.isInterrupt with
  | true => simp [eq_comm]
  | false => cases f.describe <;> simp [eq_comm]

/-- A fault that can be described ends a cycle with its description. -/
theorem ended_describable {f : Fault} (h : f.Describable) : ∃ told, f.describe = .ok told ∧
    ended v f s = (.ok (), shown v (Status.error told) (v.note .error failedRecord s)) := by
  obtain ⟨hordinary, told, htold⟩ := h
  exact ⟨told, htold, by rw [ended, if_neg (by simp [hordinary]), htold]⟩

/-- **A cycle that passes a fault on has met one:** the user's interrupt itself, or one that
cannot be described. -/
theorem run_eq_error (hv : AlwaysShows v) {g : Fault} : run v form s = (.error g, s') ↔
    ∃ f s₀, Met v form s f s₀ ∧ ended v f s₀ = (.error g, s') := by
  constructor
  · intro h
    have hcourse := run_course hv form s
    generalize hresult : run v form s = result at hcourse
    rw [hresult] at h
    cases hcourse with
    | lacking | refused | delivered => exact absurd h.symm error_ne_ok
    | failed met => exact ⟨_, _, met, h⟩
  · rintro ⟨f, s₀, hmet, hended⟩
    rw [hmet.run_eq hv, hended]

end Cycle
end Courier
