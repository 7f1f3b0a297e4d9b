import Courier.Proofs.Cycle.Keeping
import Courier.Proofs.Cycle.Traces
import Courier.Proofs.Text.Trim

/-!
# Which forms are sent, and as what

The check of a form and the building of its payload draw one line: a form lacks nothing
exactly when it has a payload with a project name in it. A cycle hands that payload to the
endpoint, once, if it could show the texts that come before, and it hands over nothing else.

Key definitions: `Form.Sends`, `Form.surrounded`, `Services.watched`, `Services.AnnouncesUpload`.
Key theorems: `Form.problem?_eq_none_iff_payload`, `Form.sends_of_payload`, `Cycle.run_handed`,
`Cycle.sound_form_handed_over`.
-/

namespace Courier

/-! ### The check and the payload -/

namespace Form

variable {form : Form} {payload : Payload}

theorem payload_eq_ok : form.payload = .ok payload ↔ ∃ schema, form.schema = some schema ∧
    payload = {
      files := ⟨schemaField, schema⟩ :: (form.overrides.map (⟨overridesField, ·⟩)).toList
      data := [(projectField, form.trimmedProject)] } := by
  unfold Form.payload
  cases form.schema <;> simp [eq_comm]

/-- **A form lacks nothing exactly when it has a payload with a project name in it.** -/
theorem problem?_eq_none_iff_payload : form.problem? = none ↔
    ∃ payload x, form.payload = .ok payload ∧ payload.data.lookup projectField = some x ∧ x ≠ [] := by
  rw [problem?_eq_none]
  constructor
  · rintro ⟨hschema, hproject⟩
    obtain ⟨schema, hschema⟩ := Option.ne_none_iff_exists'.mp hschema
    exact ⟨_, form.trimmedProject, payload_eq_ok.mpr ⟨schema, hschema, rfl⟩, List.lookup_cons_self,
      hproject⟩
  · rintro ⟨payload, x, hpayload, hlookup, hx⟩
    obtain ⟨schema, hschema, rfl⟩ := payload_eq_ok.mp hpayload
    have hproject : form.trimmedProject = x := by
      simpa using hlookup
    exact ⟨by simp [hschema], hproject ▸ hx⟩

/-- The payload carries the parts of the form as they are, each in its field, and the project
name without the white space around it. -/
structure Sends (form : Form) (payload : Payload) : Prop where
  fields : payload.fieldNames =
    "sql".toList :: (if form.overrides = none then [] else ["overrides".toList]) ++
      ["project-name".toList]
  parts : payload.files.map FileField.part = form.schema.toList ++ form.overrides.toList
  project : ∃ u x w, form.project = some (u ++ x ++ w) ∧ Text.Blank u ∧ Text.Blank w ∧
    Text.IsTrimmed x ∧ x ≠ [] ∧ payload.data = [("project-name".toList, x)]

theorem sends_of_payload (hcomplete : form.problem? = none) (hpayload : form.payload = .ok payload) :
    form.Sends payload := by
  obtain ⟨schema, hschema, rfl⟩ := payload_eq_ok.mp hpayload
  have hproject := (problem?_eq_none.mp hcomplete).2
  refine ⟨?_, ?_, ?_⟩
  · cases form.overrides <;> rfl
  · cases h : form.overrides <;> simp [hschema]
  · cases hname : form.project with
    | none => exact absurd (by rw [trimmedProject, hname]; rfl) hproject
    | some name =>
      have htrimmed : form.trimmedProject = Text.trim name := by
        rw [trimmedProject, hname, Option.getD_some]
      obtain ⟨u, w, hu, hw, heq⟩ := Text.exists_around_trim name
      refine ⟨u, Text.trim name, w, congrArg some heq, hu, hw, Text.trim_isTrimmed name,
        htrimmed ▸ hproject, ?_⟩
      rw [htrimmed]
      rfl

/-- The form with texts put before and after its project name. -/
def surrounded (form : Form) (before after : Text) : Form :=
  { form with project := some (before ++ form.project.getD [] ++ after) }

/-- White space around the project name changes nothing in what is checked and sent. -/
theorem surrounded_blank {u w : Text} (hu : Text.Blank u) (hw : Text.Blank w) :
    (form.surrounded u w).problem? = form.problem? ∧
      (form.surrounded u w).payload = form.payload := by
  have hproject : (form.surrounded u w).trimmedProject = form.trimmedProject :=
    Text.trim_surrounded hu hw (form.project.getD [])
  have hschema : (form.surrounded u w).schema = form.schema := rfl
  have hoverrides : (form.surrounded u w).overrides = form.overrides := rfl
  constructor
  · rw [problem?, problem?, hschema, hproject]
  · rw [Form.payload, Form.payload, hschema, hoverrides, hproject]

end Form

/-! ### What a cycle hands over -/

variable {σ : Type}

namespace Services

/-- The surroundings with the library's own check and payload, and with a list of the payloads
that were handed to the endpoint. -/
def watched (v : Services σ) : Services (List Payload × σ) where
  announce text := fun s => Prod.map id (s.1, ·) (v.announce text s.2)
  note level text s := (s.1, v.note level text s.2)
  problem? form := form.problem?.map Form.Problem.message
  payload := Form.payload
  post payload := fun s => Prod.map id (s.1 ++ [payload], ·) (v.post payload s.2)
  deliver body name := fun s => Prod.map id (s.1, ·) (v.deliver body name s.2)
  fallbackName := v.fallbackName
  codecs := v.codecs

section Watched

variable (v : Services σ) (handed : List Payload) (s : σ)

theorem watched_announce (text : Text) :
    v.watched.announce text (handed, s) = Prod.map id (handed, ·) (v.announce text s) := rfl

theorem watched_post (payload : Payload) : v.watched.post payload (handed, s) =
    Prod.map id (handed ++ [payload], ·) (v.post payload s) := rfl

theorem watched_problem? (form : Form) :
    v.watched.problem? form = form.problem?.map Form.Problem.message := rfl

theorem watched_payload (form : Form) : v.watched.payload form = form.payload := rfl

/-- Only posting hands payloads over. -/
theorem watched_keepsBeside : v.watched.KeepsBeside (·.1 = handed) :=
  ⟨fun _ _ h => h, fun _ _ _ h => h, fun _ _ _ h => h⟩

end Watched

/-- The two texts that come before a payload is handed over can be shown. -/
def AnnouncesUpload (v : Services σ) (s : σ) : Prop :=
  (v.announce Status.preparing s).1 = .ok () ∧
    (v.announce Status.uploading (v.announce Status.preparing s).2).1 = .ok ()

end Services

namespace Cycle

variable {v : Services σ} {form : Form} {payload : Payload} {handed : List Payload} {s : σ}

/-- Whatever comes of it, a payload that is posted is handed over once. -/
theorem exchange_handed (v : Services σ) (payload : Payload) (handed : List Payload) (s : σ) :
    (exchange v.watched payload (handed, s)).2.1 = handed ++ [payload] := by
  unfold exchange
  rw [v.watched_post]
  rcases v.post payload s with ⟨answer, s₁⟩
  cases answer with
  | error f => rfl
  | ok r => exact receive_keeps (v.watched_keepsBeside (handed ++ [payload])) r rfl

/-- A payload is handed over if its upload can be announced, and not without. -/
theorem attempt_handed (v : Services σ) (handed : List Payload) (s : σ)
    (hpayload : form.payload = .ok payload) :
    (attempt v.watched form (handed, s)).2.1 =
      if (v.announce Status.uploading s).1 = .ok () then handed ++ [payload] else handed := by
  unfold attempt
  rw [v.watched_payload, hpayload]
  dsimp only
  rw [v.watched_announce]
  rcases v.announce Status.uploading s with ⟨shown, s₁⟩
  cases shown with
  | error f => rfl
  | ok _ =>
    have hexchange := exchange_handed v payload handed s₁
    rw [if_pos rfl]
    dsimp only [Prod.map, id]
    generalize exchange v.watched payload (handed, s₁) = result at hexchange ⊢
    obtain ⟨outcome, s₂⟩ := result
    cases outcome with
    | error f => exact hexchange
    | ok outcome => exact conclude_keeps (v.watched_keepsBeside _) outcome hexchange

/-- A form that lacks nothing has its payload handed over if the upload can be announced. -/
theorem run_handed (hcomplete : form.problem? = none) (hpayload : form.payload = .ok payload)
    (h : v.AnnouncesUpload s) : (run v.watched form (handed, s)).2.1 = handed ++ [payload] := by
  obtain ⟨hpreparing, huploading⟩ := h
  unfold run
  rw [v.watched_announce]
  generalize v.announce Status.preparing s = result at hpreparing huploading ⊢
  obtain ⟨shown, s₁⟩ := result
  obtain rfl : shown = .ok () := hpreparing
  dsimp only [Prod.map, id]
  rw [v.watched_problem?, hcomplete]
  have hattempt := attempt_handed v handed s₁ hpayload
  rw [if_pos huploading] at hattempt
  exact guarded_keeps (v.watched_keepsBeside _) hattempt

/-- Where the upload cannot be announced, or the form lacks something, nothing is handed over. -/
theorem run_unhanded (h : form.problem? = none → ¬v.AnnouncesUpload s) :
    (run v.watched form (handed, s)).2.1 = handed := by
  unfold run
  rw [v.watched_announce]
  unfold Services.AnnouncesUpload at h
  generalize v.announce Status.preparing s = result at h ⊢
  obtain ⟨shown, s₁⟩ := result
  cases shown with
  | error f => rfl
  | ok _ =>
    dsimp only [Prod.map, id]
    cases hform : form.problem? with
    | some lack =>
      obtain ⟨c, cs, hwords⟩ := List.exists_cons_of_ne_nil lack.message_ne_nil
      rw [v.watched_problem?, hform, Option.map_some, hwords]
      rfl
    | none =>
      obtain ⟨payload, -, hpayload, -⟩ := Form.problem?_eq_none_iff_payload.mp hform
      have huploading : ¬(v.announce Status.uploading s₁).1 = .ok () := fun hshown =>
        h hform ⟨rfl, hshown⟩
      have hattempt := attempt_handed v handed s₁ hpayload
      rw [if_neg huploading] at hattempt
      rw [v.watched_problem?, hform]
      exact guarded_keeps (v.watched_keepsBeside _) hattempt

/-- **The check of a form and the building of its payload agree, and what is built is sent.** A form
lacks nothing exactly when it has a payload with a project name in it. Then the payload carries
the parts of the form as they are and the project name without the white space around it, and
a cycle hands it to the endpoint once, whatever comes of it, if it can announce the upload, and
nothing else ever. A form that lacks something is not sent. It has no payload exactly when
it has no schema file; and white space around the project name changes nothing in all this. -/
theorem sound_form_handed_over (form : Form) :
    (form.problem? = none ↔ ∃ payload x, form.payload = .ok payload ∧
      payload.data.lookup "project-name".toList = some x ∧ x ≠ []) ∧
    (form.problem? = none → ∀ payload, form.payload = .ok payload → form.Sends payload ∧
      ∀ (σ : Type) (v : Services σ) (s : σ),
        (v.AnnouncesUpload s → (run v.watched form ([], s)).2.1 = [payload]) ∧
        (¬v.AnnouncesUpload s → (run v.watched form ([], s)).2.1 = [])) ∧
    (form.problem? ≠ none → ∀ (σ : Type) (v : Services σ) (s : σ),
      (run v.watched form ([], s)).2.1 = []) ∧
    (∀ f, form.payload = .error f ↔ form.schema = none ∧ f = .noSchema) ∧
    ∀ u w, Text.Blank u → Text.Blank w → (form.surrounded u w).problem? = form.problem? ∧
      (form.surrounded u w).payload = form.payload := by
  refine ⟨Form.problem?_eq_none_iff_payload, ?_, ?_, fun _ => Form.payload_eq_error,
    fun u w hu hw => Form.surrounded_blank hu hw⟩
  · intro hcomplete payload hpayload
    refine ⟨Form.sends_of_payload hcomplete hpayload, fun σ v s => ⟨fun h => ?_, fun h => ?_⟩⟩
    · exact run_handed hcomplete hpayload h
    · exact run_unhanded fun _ => h
  · intro hlacking σ v s
    exact run_unhanded fun hcomplete => absurd hcomplete hlacking

/-- A form with overrides. -/
def overriding : Form := { Form.shop with overrides := some ⟨"o.yml".toList, [], []⟩ }

/-- Wide white space and a line end around the project name are not sent, and both files are. -/
theorem overriding_handed_over : overriding.problem? = none ∧
    Text.Blank "\u3000".toList ∧ Text.Blank "\n".toList ∧
    (answering (boom [])).services.AnnouncesUpload (.start ()) ∧ ∃ payload,
      (overriding.surrounded "\u3000".toList "\n".toList).payload = .ok payload ∧
      payload.fieldNames = ["sql".toList, "overrides".toList, "project-name".toList] ∧
      payload.data = [("project-name".toList, "shop".toList)] ∧
      (run (answering (boom [])).services.watched overriding ([], .start ())).2.1 = [payload] := by
  have hcomplete : overriding.problem? = none := by decide
  have hu : Text.Blank "\u3000".toList := by decide
  have hw : Text.Blank "\n".toList := by decide
  have hannounces : (answering (boom [])).services.AnnouncesUpload (.start ()) := ⟨rfl, rfl⟩
  obtain ⟨hcheck, hsent, -, -, hsurrounded⟩ := sound_form_handed_over overriding
  obtain ⟨payload, x, hpayload, -, -⟩ := hcheck.mp hcomplete
  obtain ⟨hsends, hhanded⟩ := hsent hcomplete payload hpayload
  refine ⟨hcomplete, hu, hw, hannounces, payload, (hsurrounded _ _ hu hw).2.trans hpayload,
    hsends.fields, ?_, (hhanded _ _ _).1 hannounces⟩
  rw [← Except.ok.inj hpayload]
  decide

end Cycle
end Courier
