import Courier.Proofs.Cycle.Course
import Courier.Proofs.Form
import Courier.Proofs.Status

/-!
# The six traces of a cycle

A cycle is watched from outside: which texts it shows, which payloads it posts
and which archives it hands over, with what each of these comes to. Whatever
the endpoint and the download target do, short of the user's interrupt and of
failures that cannot be described, the texts are one of six traces, and which
one it is is told by the form and by what the endpoint and the target did.

Key definitions: `Counterparts`, `Seen`, `Trace`, `Trace.Explains`.
Key theorems: `Cycle.run_explained`, `Trace.texts_injective`, `Cycle.texts_tell_course`.
-/

namespace Courier

/-- What a cycle has to do with, when it checks its form and builds its payload as the
library does: a status sink that does not fail, an endpoint and a download target, on a
state of type `ω`. -/
structure Counterparts (ω : Type) where
  display : Text → ω → ω
  note : Level → Text → ω → ω
  post : Payload → Act ω Response
  deliver : Bytes → Text → Act ω Path
  fallbackName : Text
  codecs : Codecs

/-- What is seen of a cycle: the texts shown, the payloads posted and the archives
handed over, each with what came of it, and the state of the counterparts. -/
structure Seen (ω : Type) where
  texts : List Text
  posts : List (Payload × Except Fault Response)
  deliveries : List (Bytes × Text × Except Fault Path)
  world : ω

variable {ω : Type}

/-- A cycle of which nothing was seen yet. -/
def Seen.start (w : ω) : Seen ω := ⟨[], [], [], w⟩

namespace Counterparts

/-- The counterparts, watched. -/
def services (u : Counterparts ω) : Services (Seen ω) where
  announce text := fun s =>
    (.ok (), { s with texts := s.texts ++ [text], world := u.display text s.world })
  note level text s := { s with world := u.note level text s.world }
  problem? form := form.problem?.map Form.Problem.message
  payload := Form.payload
  post payload := fun s => ((u.post payload s.world).1,
    { s with
      posts := s.posts ++ [(payload, (u.post payload s.world).1)]
      world := (u.post payload s.world).2 })
  deliver body name := fun s => ((u.deliver body name s.world).1,
    { s with
      deliveries := s.deliveries ++ [(body, name, (u.deliver body name s.world).1)]
      world := (u.deliver body name s.world).2 })
  fallbackName := u.fallbackName
  codecs := u.codecs

/-- Nothing that the counterparts do is the user's interrupt, and all that they get wrong can
be described. -/
structure Orderly (u : Counterparts ω) : Prop where
  post : ∀ payload w f, (u.post payload w).1 = .error f → f.Describable
  reading : ∀ payload w r f, (u.post payload w).1 = .ok r → r.failure = some f → f.Describable
  closing : ∀ payload w r f, (u.post payload w).1 = .ok r → r.closing = some f → f.Describable
  deliver : ∀ body name w f, (u.deliver body name w).1 = .error f → f.Describable
  decoding : ∀ name reading body f, u.codecs.lenient name = some reading →
    reading body = .error f → f.Describable

end Counterparts

/-- The six ways in which the texts of a cycle can go. -/
inductive Trace where
  /-- The form has no schema file. -/
  | noSchema
  /-- The project name is blank. -/
  | noProject
  /-- There is no answer, or a refusal that cannot be read. -/
  | failed (why : Text)
  /-- The server refuses. -/
  | refused (status : ℕ) (words : Text)
  /-- The archive does not arrive, or cannot be saved. -/
  | broken (why : Text)
  /-- The archive is saved. -/
  | delivered

namespace Trace

/-- The texts of a trace. -/
def texts : Trace → List Text
  | noSchema => [Status.preparing, Form.Problem.noSchema.message]
  | noProject => [Status.preparing, Form.Problem.noProject.message]
  | failed why => [Status.preparing, Status.uploading, Status.error why]
  | refused status words => [Status.preparing, Status.uploading, Status.serverError status words]
  | broken why => [Status.preparing, Status.uploading, Status.generating, Status.error why]
  | delivered => [Status.preparing, Status.uploading, Status.generating, Status.downloadStarted]

/-- **Different traces have different texts.** -/
theorem texts_injective : Function.Injective texts := by
  intro t t' h
  cases t <;> cases t' <;> simp only [texts, List.cons.injEq, and_true, true_and,
    reduceCtorEq, and_false, List.ne_cons_self] at h ⊢
  case noSchema.noProject => exact absurd h (by decide)
  case noProject.noSchema => exact absurd h (by decide)
  case failed.failed => rw [Status.error_inj.mp h]
  case failed.refused => exact Status.error_ne_serverError _ _ _ h
  case refused.failed => exact Status.error_ne_serverError _ _ _ h.symm
  case refused.refused =>
    obtain ⟨rfl, rfl⟩ := Status.serverError_inj.mp h
    rfl
  case broken.broken => rw [Status.error_inj.mp h]
  case broken.delivered => exact Status.error_ne_downloadStarted _ h
  case delivered.broken => exact Status.error_ne_downloadStarted _ h.symm

/-- The form was fit to be sent, and its payload was posted once and answered so. -/
def Posted (u : Counterparts ω) (form : Form) (s : Seen ω) (answer : Except Fault Response) : Prop :=
  form.schema ≠ none ∧ form.trimmedProject ≠ [] ∧ ∃ payload w, form.payload = .ok payload ∧
    (u.post payload w).1 = answer ∧ s.posts = [(payload, answer)]

/-- One archive was handed over, with that outcome. -/
def HandedOver (u : Counterparts ω) (s : Seen ω) (body : Bytes) (name : Text)
    (saved : Except Fault Path) : Prop :=
  ∃ w, (u.deliver body name w).1 = saved ∧ s.deliveries = [(body, name, saved)]

/-- What has to have happened for a trace, in terms of the form and of what the endpoint
and the target did. -/
def Explains (u : Counterparts ω) (form : Form) (s : Seen ω) : Trace → Prop
  | noSchema => form.schema = none
  | noProject => form.schema ≠ none ∧ form.trimmedProject = []
  | failed why => s.deliveries = [] ∧ ∃ f, f.describe = .ok why ∧
      (Posted u form s (.error f) ∨
        ∃ r, Posted u form s (.ok r) ∧ r.isSuccess = false ∧
          (r.closing = some f ∨ r.closing = none ∧
            (r.read = .error f ∨ ∃ body, r.read = .ok body ∧ r.textOf u.codecs body = .error f)))
  | refused status words => s.deliveries = [] ∧
      ∃ r body told, Posted u form s (.ok r) ∧ r.isSuccess = false ∧ r.closing = none ∧
        r.read = .ok body ∧ r.textOf u.codecs body = .ok told ∧ status = r.status ∧
        words = if told = [] then r.phrase else told
  | broken why => ∃ r f, f.describe = .ok why ∧ Posted u form s (.ok r) ∧ r.isSuccess = true ∧
      (s.deliveries = [] ∧
          (r.closing = some f ∨ r.closing = none ∧
            (r.read = .error f ∨ (∃ body, r.read = .ok body) ∧
              ∃ g, fileNameOf (r.headers.get? dispositionField) = .error g ∧ f = .disposition g)) ∨
        ∃ body name, r.closing = none ∧ r.read = .ok body ∧
          fileNameOf (r.headers.get? dispositionField) = .ok name ∧
          HandedOver u s body (name.getD u.fallbackName) (.error f))
  | delivered => ∃ r body name p, Posted u form s (.ok r) ∧ r.isSuccess = true ∧
      r.closing = none ∧ r.read = .ok body ∧
      fileNameOf (r.headers.get? dispositionField) = .ok name ∧
      HandedOver u s body (name.getD u.fallbackName) (.ok p)

end Trace

namespace Cycle

variable {u : Counterparts ω} {form : Form} {w : ω}

theorem services_alwaysShows (u : Counterparts ω) : AlwaysShows u.services := fun _ _ => rfl

@[simp] theorem shown_services (u : Counterparts ω) (text : Text) (s : Seen ω) :
    shown u.services text s =
      { s with texts := s.texts ++ [text], world := u.display text s.world } := rfl

@[simp] theorem note_services (u : Counterparts ω) (level : Level) (text : Text) (s : Seen ω) :
    u.services.note level text s = { s with world := u.note level text s.world } := rfl

/-- Looking into a successful response shows one text. -/
theorem received_services (u : Counterparts ω) (r : Response) (s : Seen ω) :
    ∃ w', received u.services r s =
      { s with texts := s.texts ++ [Status.generating], world := w' } := by
  unfold received
  split
  · exact ⟨_, rfl⟩
  · exact ⟨_, rfl⟩

theorem complete_services (h : Complete u.services form) :
    form.schema ≠ none ∧ form.trimmedProject ≠ [] := by
  rw [← Form.problem?_eq_none]
  cases hp : form.problem? with
  | none => rfl
  | some problem =>
    exact absurd (h problem.message (congrArg (Option.map Form.Problem.message) hp))
      problem.message_ne_nil

/-- What was seen when a response is there. -/
theorem Answered.seen {payload : Payload} {r : Response} {s : Seen ω}
    (h : Answered u.services form (.start w) payload r s) :
    s.texts = [Status.preparing, Status.uploading] ∧ s.deliveries = [] ∧
      Trace.Posted u form s (.ok r) := by
  obtain ⟨hschema, hproject⟩ := complete_services h.complete
  obtain ⟨hanswer, hs⟩ := Prod.mk.inj h.answer
  subst hs
  exact ⟨rfl, rfl, hschema, hproject, payload, _, h.built, hanswer, by rw [hanswer]; rfl⟩

/-- What was seen when the archive in a response was handed over. -/
theorem Answered.handedOver {payload : Payload} {r : Response} {body : Bytes} {name : Option Text}
    {s s' : Seen ω} {saved : Except Fault Path}
    (h : Answered u.services form (.start w) payload r s)
    (arrived : putAway r (archive r) = .ok (body, name))
    (hsaved : u.services.deliver body (name.getD u.services.fallbackName)
      (received u.services r s) = (saved, s')) :
    s'.texts = [Status.preparing, Status.uploading, Status.generating] ∧
      Trace.Posted u form s' (.ok r) ∧ r.closing = none ∧ r.read = .ok body ∧
      fileNameOf (r.headers.get? dispositionField) = .ok name ∧
      Trace.HandedOver u s' body (name.getD u.fallbackName) saved := by
  obtain ⟨htexts, hdel, hposted⟩ := h.seen
  obtain ⟨hclosing, harchive⟩ := putAway_eq_ok.mp arrived
  obtain ⟨hread, hname⟩ := archive_eq_ok.mp harchive
  obtain ⟨w', hreceived⟩ := received_services u r s
  rw [hreceived] at hsaved
  obtain ⟨hout, rfl⟩ := Prod.mk.inj hsaved
  refine ⟨?_, hposted, hclosing, hread, hname, w', hout, ?_⟩
  · change s.texts ++ [Status.generating] = _
    rw [htexts]
    rfl
  · change s.deliveries ++ _ = _
    rw [hdel]
    exact congrArg (fun saved => [(body, name.getD u.fallbackName, saved)]) hout

/-- A body that orderly counterparts answer with fails to be read in a way that can be
described. -/
theorem read_describable (hu : u.Orderly) {payload : Payload} {w₀ : ω} {r : Response} {f : Fault}
    (hr : (u.post payload w₀).1 = .ok r) (h : r.read = .error f) : f.Describable := by
  rcases Response.read_eq_error.mp h with harrived | ⟨-, hfailure⟩
  · obtain ⟨flaw, rfl⟩ := Response.arrived_eq_error harrived
    exact Fault.describable_coding flaw
  · exact hu.reading payload w₀ r f hr hfailure

theorem words_describable (hu : u.Orderly) {payload : Payload} {w₀ : ω} {r : Response} {f : Fault}
    (hr : (u.post payload w₀).1 = .ok r) (h : words u.codecs r = .error f) : f.Describable := by
  rcases words_eq_error.mp h with hread | ⟨body, -, htext⟩
  · exact read_describable hu hr hread
  · rcases Response.textOf_eq_error htext with ⟨g, rfl⟩ | rfl | ⟨name, reading, hname, hfault⟩
    · exact Fault.describable_parameter g
    · exact Fault.describable_nullInEncoding
    · exact hu.decoding name reading body f hname hfault

theorem archive_describable (hu : u.Orderly) {payload : Payload} {w₀ : ω} {r : Response} {f : Fault}
    (hr : (u.post payload w₀).1 = .ok r) (h : archive r = .error f) : f.Describable := by
  rcases archive_eq_error.mp h with hread | ⟨-, g, -, rfl⟩
  · exact read_describable hu hr hread
  · exact Fault.describable_disposition g

/-- What goes wrong as orderly counterparts' response is read or put away can be described. -/
theorem putAway_describable {α : Type} (hu : u.Orderly) {payload : Payload} {w₀ : ω} {r : Response}
    {f : Fault} {x : Except Fault α} (hr : (u.post payload w₀).1 = .ok r)
    (hx : ∀ g, x = .error g → g.Describable) (h : putAway r x = .error f) : f.Describable := by
  rcases putAway_eq_error.mp h with hclosing | ⟨-, hfault⟩
  · exact hu.closing payload w₀ r f hr hclosing
  · exact hx f hfault

/-- What a cycle with orderly counterparts meets can be described. -/
theorem Met.describable (hu : u.Orderly) {f : Fault} {s₀ : Seen ω}
    (h : Met u.services form (.start w) f s₀) : f.Describable := by
  cases h with
  | unbuilt complete fault =>
    exact absurd (Form.payload_eq_error.mp fault).1 (complete_services complete).1
  | unanswered complete built fault => exact hu.post _ _ _ (Prod.mk.inj fault).1
  | unread answered refused fault =>
    obtain ⟨-, -, _, _, -, hanswer, -⟩ := answered.seen.2.2
    exact putAway_describable hu hanswer (fun _ => words_describable hu hanswer) fault
  | broken answered success fault =>
    obtain ⟨-, -, _, _, -, hanswer, -⟩ := answered.seen.2.2
    exact putAway_describable hu hanswer (fun _ => archive_describable hu hanswer) fault
  | undelivered answered success arrived fault => exact hu.deliver _ _ _ _ (Prod.mk.inj fault).1

/-- A fault that is met and described makes a trace that is explained. -/
theorem Met.explained {f : Fault} {s₀ : Seen ω} {why : Text} (hwhy : f.describe = .ok why)
    (h : Met u.services form (.start w) f s₀) :
    ∃ trace : Trace, s₀.texts ++ [Status.error why] = trace.texts ∧
      ∀ w', trace.Explains u form
        { s₀ with texts := s₀.texts ++ [Status.error why], world := w' } := by
  cases h with
  | unbuilt complete fault =>
    exact absurd (Form.payload_eq_error.mp fault).1 (complete_services complete).1
  | unanswered complete built fault =>
    rename_i payload
    obtain ⟨hschema, hproject⟩ := complete_services complete
    obtain ⟨hanswer, rfl⟩ := Prod.mk.inj fault
    refine ⟨.failed why, rfl, fun w' => ⟨rfl, f, hwhy, Or.inl ?_⟩⟩
    exact ⟨hschema, hproject, payload, _, built, hanswer, by rw [← hanswer]; rfl⟩
  | unread answered refused fault =>
    rename_i payload r
    obtain ⟨htexts, hdel, hposted⟩ := answered.seen
    refine ⟨.failed why, ?_, fun w' => ⟨hdel, f, hwhy, Or.inr ⟨r, hposted, refused, ?_⟩⟩⟩
    · simp [htexts, Trace.texts]
    · rwa [← words_eq_error, ← putAway_eq_error]
  | broken answered success fault =>
    rename_i payload r s'
    obtain ⟨htexts, hdel, hposted⟩ := answered.seen
    obtain ⟨w'', hreceived⟩ := received_services u r s'
    rw [hreceived]
    refine ⟨.broken why, ?_, fun w' => ⟨r, f, hwhy, hposted, success, Or.inl ⟨hdel, ?_⟩⟩⟩
    · simp [htexts, Trace.texts]
    · rwa [← archive_eq_error, ← putAway_eq_error]
  | undelivered answered success arrived fault =>
    rename_i payload r body name s'
    obtain ⟨htexts, hposted, hclosing, hread, hname, hhanded⟩ := answered.handedOver arrived fault
    refine ⟨.broken why, ?_, fun w' => ⟨r, f, hwhy, hposted, success,
      Or.inr ⟨body, name, hclosing, hread, hname, hhanded⟩⟩⟩
    rw [htexts]
    rfl

/-- **A cycle ends without a fault, and its texts are a trace that is explained.** -/
theorem run_explained (hu : u.Orderly) (form : Form) (w : ω) :
    (run u.services form (.start w)).1 = .ok () ∧
      ∃ trace : Trace, (run u.services form (.start w)).2.texts = trace.texts ∧
        trace.Explains u form (run u.services form (.start w)).2 := by
  have hcourse := run_course (services_alwaysShows u) form (Seen.start w)
  generalize run u.services form (Seen.start w) = result at hcourse ⊢
  cases hcourse with
  | lacking problem told =>
    obtain ⟨lack, hlack, rfl⟩ := Option.map_eq_some_iff.mp problem
    cases lack with
    | noSchema => exact ⟨rfl, .noSchema, rfl, Form.problem?_eq_noSchema.mp hlack⟩
    | noProject => exact ⟨rfl, .noProject, rfl, Form.problem?_eq_noProject.mp hlack⟩
  | failed met =>
    obtain ⟨why, hwhy, hended⟩ := ended_describable (met.describable hu)
    obtain ⟨trace, htexts, hexplains⟩ := met.explained hwhy
    rw [hended]
    exact ⟨rfl, trace, htexts, hexplains _⟩
  | refused answered refused told =>
    rename_i payload r text s'
    obtain ⟨htexts, hdel, hposted⟩ := answered.seen
    obtain ⟨hclosing, hwords⟩ := putAway_eq_ok.mp told
    obtain ⟨body, told', hread, htext, hwords⟩ := words_eq_ok.mp hwords
    refine ⟨rfl, .refused r.status text, ?_, hdel, r, body, told', hposted, refused, hclosing, hread,
      htext, rfl, hwords⟩
    simp [htexts, Trace.texts]
  | delivered answered success arrived saved =>
    rename_i payload r body name p s' s''
    obtain ⟨htexts, hposted, hclosing, hread, hname, hhanded⟩ := answered.handedOver arrived saved
    refine ⟨rfl, .delivered, ?_, r, body, name, p, hposted, success, hclosing, hread, hname,
      hhanded⟩
    simp [htexts, Trace.texts]

/-! ### Which trace it is -/

/-- The trace that is told by the form and by what was seen. -/
def verdict (codecs : Codecs) (form : Form) (s : Seen ω) : Option Trace :=
  match form.problem?, s.posts with
  | some .noSchema, _ => some .noSchema
  | some .noProject, _ => some .noProject
  | none, [(_, .error f)] => f.describe.toOption.map .failed
  | none, [(_, .ok r)] =>
    if r.isSuccess then
      match putAway r (archive r), s.deliveries with
      | .error f, _ => f.describe.toOption.map .broken
      | .ok _, [(_, _, .error f)] => f.describe.toOption.map .broken
      | .ok _, [(_, _, .ok _)] => some .delivered
      | .ok _, _ => none
    else
      match putAway r (words codecs r) with
      | .error f => f.describe.toOption.map .failed
      | .ok told => some (.refused r.status told)
  | none, _ => none

/-- What is seen of a form whose payload was posted. -/
theorem Posted.seen {s : Seen ω} {answer : Except Fault Response}
    (h : Trace.Posted u form s answer) :
    form.problem? = none ∧ ∃ payload, s.posts = [(payload, answer)] := by
  obtain ⟨hschema, hproject, payload, w, -, -, hposts⟩ := h
  exact ⟨Form.problem?_eq_none.mpr ⟨hschema, hproject⟩, payload, hposts⟩

/-- What explains a trace tells it. -/
theorem verdict_eq {s : Seen ω} {trace : Trace} (h : trace.Explains u form s) :
    verdict u.codecs form s = some trace := by
  unfold verdict
  cases trace with
  | noSchema => rw [Form.problem?_eq_noSchema.mpr h]
  | noProject => rw [Form.problem?_eq_noProject.mpr h]
  | failed why =>
    obtain ⟨-, f, hwhy, hposted | ⟨r, hposted, hrefused, hfault⟩⟩ := h
    · obtain ⟨hform, payload, hposts⟩ := Posted.seen hposted
      rw [hform, hposts]
      simp only [hwhy, Except.toOption, Option.map_some]
    · obtain ⟨hform, payload, hposts⟩ := Posted.seen hposted
      rw [← words_eq_error, ← putAway_eq_error] at hfault
      rw [hform, hposts]
      simp only [hrefused, hfault, hwhy, Bool.false_eq_true, if_false, Except.toOption,
        Option.map_some]
  | refused status text =>
    obtain ⟨-, r, body, told, hposted, hrefused, hclosing, hread, htext, rfl, hwords⟩ := h
    obtain ⟨hform, payload, hposts⟩ := Posted.seen hposted
    have htold : putAway r (words u.codecs r) = .ok text :=
      putAway_eq_ok.mpr ⟨hclosing, words_eq_ok.mpr ⟨body, told, hread, htext, hwords⟩⟩
    rw [hform, hposts]
    simp only [hrefused, htold, Bool.false_eq_true, if_false]
  | broken why =>
    obtain ⟨r, f, hwhy, hposted, hsuccess, ⟨-, hfault⟩ |
      ⟨body, name, hclosing, hread, hname, _, -, hdel⟩⟩ := h
    · obtain ⟨hform, payload, hposts⟩ := Posted.seen hposted
      rw [← archive_eq_error, ← putAway_eq_error] at hfault
      rw [hform, hposts]
      simp only [hsuccess, hfault, hwhy, if_true, Except.toOption, Option.map_some]
    · obtain ⟨hform, payload, hposts⟩ := Posted.seen hposted
      have harrived : putAway r (archive r) = .ok (body, name) :=
        putAway_eq_ok.mpr ⟨hclosing, archive_eq_ok.mpr ⟨hread, hname⟩⟩
      rw [hform, hposts]
      simp only [hsuccess, harrived, hdel, hwhy, if_true, Except.toOption, Option.map_some]
  | delivered =>
    obtain ⟨r, body, name, p, hposted, hsuccess, hclosing, hread, hname, _, -, hdel⟩ := h
    obtain ⟨hform, payload, hposts⟩ := Posted.seen hposted
    have harrived : putAway r (archive r) = .ok (body, name) :=
      putAway_eq_ok.mpr ⟨hclosing, archive_eq_ok.mpr ⟨hread, hname⟩⟩
    rw [hform, hposts]
    simp only [hsuccess, harrived, hdel, if_true]

/-- Whatever happened to a form that lacks nothing, it was posted once. -/
theorem explains_posted {s : Seen ω} {trace : Trace} (h : trace.Explains u form s)
    (hform : form.problem? = none) : ∃ answer, Trace.Posted u form s answer := by
  cases trace with
  | noSchema => exact absurd (hform.symm.trans (Form.problem?_eq_noSchema.mpr h)) (by simp)
  | noProject => exact absurd (hform.symm.trans (Form.problem?_eq_noProject.mpr h)) (by simp)
  | failed why =>
    obtain ⟨-, f, -, hposted | ⟨r, hposted, -⟩⟩ := h
    · exact ⟨_, hposted⟩
    · exact ⟨_, hposted⟩
  | refused status text =>
    obtain ⟨-, r, body, told, hposted, -⟩ := h
    exact ⟨_, hposted⟩
  | broken why =>
    obtain ⟨r, f, -, hposted, -⟩ := h
    exact ⟨_, hposted⟩
  | delivered =>
    obtain ⟨r, body, name, p, hposted, -⟩ := h
    exact ⟨_, hposted⟩

/-- A form that lacks something is not sent. -/
theorem run_lacking {lack : Form.Problem} (h : form.problem? = some lack) (s : Seen ω) :
    run u.services form s =
      (.ok (), shown u.services lack.message (shown u.services Status.preparing s)) := by
  have hproblem : u.services.problem? form = some lack.message :=
    congrArg (Option.map Form.Problem.message) h
  exact run_of_problem (services_alwaysShows u) hproblem lack.message_ne_nil

/-- **A cycle goes one of six ways.** It ends without a fault, and its texts are one of
the six traces, each exactly when what it stands for happened. A form that lacks nothing
is posted once, and any other is not posted at all. -/
theorem texts_tell_course (hu : u.Orderly) (form : Form) (w : ω) :
    (run u.services form (.start w)).1 = .ok () ∧
      (∃! trace : Trace, (run u.services form (.start w)).2.texts = trace.texts) ∧
      (∀ trace : Trace, (run u.services form (.start w)).2.texts = trace.texts ↔
        trace.Explains u form (run u.services form (.start w)).2) ∧
      (form.problem? = none → ∃ answer,
        Trace.Posted u form (run u.services form (.start w)).2 answer) ∧
      (form.problem? ≠ none → (run u.services form (.start w)).2.posts = [] ∧
        (run u.services form (.start w)).2.deliveries = []) := by
  obtain ⟨hcalm, told, htold, hexplained⟩ := run_explained hu form w
  have hunique : ∀ trace : Trace, _ = trace.texts → trace = told :=
    fun trace h => Trace.texts_injective (h.symm.trans htold)
  refine ⟨hcalm, ⟨told, htold, hunique⟩, fun trace => ⟨fun h => ?_, fun h => ?_⟩, fun h => ?_,
    fun h => ?_⟩
  · rwa [hunique trace h]
  · rw [htold]
    exact congrArg _ (Option.some.inj ((verdict_eq hexplained).symm.trans (verdict_eq h)))
  · exact explains_posted hexplained h
  · obtain ⟨lack, hlack⟩ := Option.ne_none_iff_exists'.mp h
    rw [run_lacking hlack]
    exact ⟨rfl, rfl⟩

/-! ### A refusal, told and untold -/

/-- Counterparts whose endpoint always gives the same response, and which save nothing. -/
def answering (r : Response) : Counterparts Unit where
  display _ := id
  note _ _ := id
  post _ w := (.ok r, w)
  deliver _ _ w := (.error .noSchema, w)
  fallbackName := []
  codecs := .none

theorem answering_orderly {r : Response} (hfailure : r.failure = none)
    (hclosing : r.closing = none) : (answering r).Orderly where
  post _ _ _ h := absurd h (by simp [answering])
  reading _ _ _ _ h hf := by
    rw [← Except.ok.inj h, hfailure] at hf
    contradiction
  closing _ _ _ _ h hf := by
    rw [← Except.ok.inj h, hclosing] at hf
    contradiction
  deliver _ _ _ _ h := by
    rw [← Except.error.inj h]
    exact ⟨rfl, _, rfl⟩
  decoding _ _ _ _ h := absurd h (by simp [answering, Codecs.none])

/-- A refusal with the body "boom". -/
def boom (fields : Headers) : Response where
  status := 500
  reason := none
  headers := fields
  chunks := [Utf8.encode "boom".toList]
  failure := none
  closing := none

theorem refused_with_words : (answering (boom [])).Orderly ∧
    (run (answering (boom [])).services .shop (.start ())).2.texts =
      (Trace.refused 500 "boom".toList).texts := by
  have hu : (answering (boom [])).Orderly := answering_orderly rfl rfl
  refine ⟨hu, ((texts_tell_course hu .shop ()).2.2.1 (.refused 500 "boom".toList)).mpr ?_⟩
  refine ⟨rfl, boom [], Utf8.encode "boom".toList, "boom".toList, ?_, rfl, rfl, rfl, rfl, rfl, rfl⟩
  exact ⟨by decide, by decide, _, (), rfl, rfl, rfl⟩

/-- A media type whose charset cannot be made out. -/
def brokenCharset : Headers :=
  [⟨Utf8.encode "Content-Type".toList, Utf8.encode "text/plain; charset*=a; charset*0=b".toList⟩]

theorem textOf_boom :
    ((boom brokenCharset).textOf .none (Utf8.encode "boom".toList)).isOk = false := by
  decide +kernel

/-- A refusal can be read in full and put away without its words being told: where
the charset of its text cannot be made out, the cycle fails. -/
theorem refused_without_words : (boom brokenCharset).isSuccess = false ∧
    (boom brokenCharset).read = .ok (Utf8.encode "boom".toList) ∧
    (boom brokenCharset).closing = none ∧
    ∀ told, (run (answering (boom brokenCharset)).services .shop (.start ())).2.texts ≠
      (Trace.refused 500 told).texts := by
  refine ⟨rfl, rfl, rfl, fun told h => ?_⟩
  have hu : (answering (boom brokenCharset)).Orderly := answering_orderly rfl rfl
  obtain ⟨-, trace, htrace, hexplained⟩ := run_explained hu .shop ()
  have htold : trace = .refused 500 told := Trace.texts_injective (htrace.symm.trans h)
  subst htold
  obtain ⟨-, r, body, text, ⟨-, -, _, _, -, hr, -⟩, -, -, hread, htext, -⟩ := hexplained
  obtain rfl : boom brokenCharset = r := Except.ok.inj hr
  obtain rfl : Utf8.encode "boom".toList = body := Except.ok.inj hread
  have hno : (Except.ok text : Except Fault Text).isOk = false := by
    rw [← show (boom brokenCharset).textOf .none _ = _ from htext]
    exact textOf_boom
  exact absurd (show true = false from hno) (by decide)

end Cycle
end Courier
