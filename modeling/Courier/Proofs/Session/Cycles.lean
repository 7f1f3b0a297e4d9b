import Courier.Session
import Courier.Proofs.Archive.Delivery
import Courier.Proofs.Cycle.Course
import Courier.Proofs.Cycle.Simulation
import Courier.Proofs.Form
import Courier.Proofs.Status
import Courier.Proofs.Http.Redirects

/-!
# A cycle of a session

A cycle that an open session runs either ends by showing that the archive is
saved, and then the body of the last response to it was delivered, or it ends
with another text, and then it leaves the archives alone. To speak of the last
response, the wire is made to remember the responses that come over it.

Key definitions: `remembering`, `Desk.Waits`, `Session.Saves`, `Session.Passes`.
Key theorem: `Session.submit_cases`.
-/

namespace Courier

variable {τ : Type}

/-- The wire, remembering the responses that come over it. -/
def remembering (transport : Request → Act τ Response) :
    Request → Act (τ × List Response) Response := fun q w =>
  match transport q w.1 with
  | (.ok r, s) => (.ok r, (s, w.2 ++ [r]))
  | (.error f, s) => (.error f, (s, w.2))

namespace Desk

/-- The responses that came over the wire. -/
def heard (d : Desk (τ × List Response)) : List Response := d.wire.2

/-- The desk without the memory of what was heard. -/
def forget (d : Desk (τ × List Response)) : Desk τ where
  depot := d.depot
  message := d.message
  journal := d.journal
  base := d.base
  opened := d.opened
  wire := d.wire.1

/-- Between the two desks no archive was saved. -/
structure Keeps (d d' : Desk (τ × List Response)) : Prop where
  depot : d'.depot = d.depot
  opened : d'.opened = d.opened
  heard : d.heard <+: d'.heard

theorem Keeps.refl (d : Desk (τ × List Response)) : Keeps d d := ⟨rfl, rfl, List.prefix_rfl⟩

theorem Keeps.trans {d₁ d₂ d₃ : Desk (τ × List Response)} (h : Keeps d₁ d₂) (h' : Keeps d₂ d₃) :
    Keeps d₁ d₃ where
  depot := h'.depot.trans h.depot
  opened := h'.opened.trans h.opened
  heard := h.heard.trans h'.heard

/-- Between the two desks the session only waited for responses. -/
structure Waits (d d' : Desk (τ × List Response)) : Prop extends Keeps d d' where
  message : d'.message = d.message

theorem Waits.refl (d : Desk (τ × List Response)) : Waits d d := ⟨Keeps.refl d, rfl⟩

theorem Waits.trans {d₁ d₂ d₃ : Desk (τ × List Response)} (h : Waits d₁ d₂) (h' : Waits d₂ d₃) :
    Waits d₁ d₃ := ⟨h.toKeeps.trans h'.toKeeps, h'.message.trans h.message⟩

theorem note_waits (level : Level) (text : Text) (d : Desk (τ × List Response)) :
    Waits d (note level text d) := ⟨⟨rfl, rfl, List.prefix_rfl⟩, rfl⟩

theorem send_waits (transport : Request → Act τ Response) (q : Request)
    (d : Desk (τ × List Response)) : Waits d (send (remembering transport) q d).2 := by
  refine ⟨⟨rfl, rfl, ?_⟩, rfl⟩
  unfold send heard remembering
  rcases transport q d.wire.1 with ⟨out, s⟩
  cases out with
  | error f => exact List.prefix_rfl
  | ok r => exact List.prefix_append _ _

theorem send_heard {transport : Request → Act τ Response} {q : Request} {r : Response}
    {d d' : Desk (τ × List Response)} (h : send (remembering transport) q d = (.ok r, d')) :
    d'.heard = d.heard ++ [r] := by
  unfold send remembering at h
  rcases hs : transport q d.wire.1 with ⟨out, s⟩
  rw [hs] at h
  cases out with
  | error f => exact absurd h error_ne_ok
  | ok r' =>
    obtain ⟨hr, rfl⟩ := Prod.mk.inj h
    rw [← Except.ok.inj hr]
    rfl

/-- Saving an archive is delivering it, and leaves the rest of the desk as it was. -/
theorem deliver_eq {target : Target} {body : Bytes} {fileName : Text} {out : Except Fault Path}
    {d d' : Desk (τ × List Response)} (h : deliver target body fileName d = (out, d')) :
    target.deliver body fileName d.depot = (out, d'.depot) ∧ d'.message = d.message ∧
      d'.opened = d.opened ∧ d'.heard = d.heard := by
  unfold deliver at h
  rcases hd : target.deliver body fileName d.depot with ⟨saved, depot⟩
  rw [hd] at h
  cases saved with
  | error f =>
    obtain ⟨rfl, rfl⟩ := Prod.mk.inj h
    exact ⟨rfl, rfl, rfl, rfl⟩
  | ok p =>
    obtain ⟨rfl, rfl⟩ := Prod.mk.inj h
    exact ⟨rfl, rfl, rfl, rfl⟩

end Desk

namespace Session

open Desk (Keeps Waits)

variable {session : Session} {transport : Request → Act τ Response} {form : Form}
  {d d' : Desk (τ × List Response)}

/-! ### How a session starts -/

/-- The target of a session saves in the output folder of its settings. -/
theorem ofSettings_eq_ok {homeOf : Text → Option Text} {boundary : Text} {codecs : Codecs}
    {settings : Settings} (h : ofSettings homeOf boundary codecs settings = .ok session) :
    settings.outputFolder.expandHome homeOf = .ok session.target.folder ∧
      session.target.fallback = settings.fallbackName ∧
      session.fallbackName = settings.fallbackName := by
  unfold ofSettings at h
  cases hfolder : settings.outputFolder.expandHome homeOf with
  | error f =>
    rw [hfolder] at h
    exact absurd h (by simp [Except.map])
  | ok folder =>
    rw [hfolder] at h
    obtain rfl := Except.ok.inj h
    exact ⟨rfl, rfl, rfl⟩

theorem ofSettings_eq_error {homeOf : Text → Option Text} {boundary : Text} {codecs : Codecs}
    {settings : Settings} {f : Fault} (h : ofSettings homeOf boundary codecs settings = .error f) :
    settings.outputFolder.expandHome homeOf = .error f := by
  unfold ofSettings at h
  cases hfolder : settings.outputFolder.expandHome homeOf with
  | ok folder =>
    rw [hfolder] at h
    exact absurd h (by simp [Except.map])
  | error g =>
    rw [hfolder] at h
    exact congrArg _ (Except.error.inj h)

theorem ofSettings_proper {homeOf : Text → Option Text} {boundary outputFolder : Text}
    {codecs : Codecs} {settings : Settings}
    (h : ofSettings homeOf boundary codecs { settings with outputFolder := .ofText outputFolder } =
      .ok session) : session.target.folder.Proper :=
  Path.proper_expandHome (Path.proper_ofText outputFolder) (ofSettings_eq_ok h).1

/-- Opening a session leaves all but the session itself as it was. -/
theorem enter_eq_ok {d d' : Desk τ} (h : session.enter d = (.ok (), d')) :
    d'.opened = true ∧ d'.depot = d.depot ∧ d'.wire = d.wire := by
  unfold enter at h
  cases hbase : session.client.base with
  | error f =>
    rw [hbase] at h
    exact absurd h error_ne_ok
  | ok base =>
    rw [hbase] at h
    obtain ⟨-, rfl⟩ := Prod.mk.inj h
    exact ⟨rfl, rfl, rfl⟩

theorem services_post {send : Request → Act τ Response} (payload : Payload) (d : Desk τ) :
    (session.services send).post payload d =
      ((session.client.post Desk.note (Desk.send send) d.base payload d).1.map Exchange.response,
        (session.client.post Desk.note (Desk.send send) d.base payload d).2) := by
  unfold services
  simp only
  rcases session.client.post Desk.note (Desk.send send) d.base payload d with ⟨answer, d₁⟩
  cases answer <;> rfl

/-! ### Remembering changes nothing -/

theorem send_forget (transport : Request → Act τ Response) (q : Request)
    (d : Desk (τ × List Response)) : Desk.send transport q d.forget =
      Prod.map id Desk.forget (Desk.send (remembering transport) q d) := by
  unfold Desk.send remembering
  rw [show d.forget.wire = d.wire.1 from rfl]
  rcases transport q d.wire.1 with ⟨out, w⟩
  cases out <;> rfl

theorem deliver_forget (target : Target) (body : Bytes) (fileName : Text)
    (d : Desk (τ × List Response)) : Desk.deliver target body fileName d.forget =
      Prod.map id Desk.forget (Desk.deliver target body fileName d) := by
  unfold Desk.deliver
  rw [show d.forget.depot = d.depot from rfl]
  rcases target.deliver body fileName d.depot with ⟨out, depot⟩
  cases out <;> rfl

/-- To forget what was heard goes along with all that the session does. -/
theorem services_mapsTo (session : Session) (transport : Request → Act τ Response) :
    (session.services (remembering transport)).MapsTo Desk.forget (session.services transport) where
  announce _ _ := rfl
  note _ _ _ := rfl
  problem? := rfl
  payload := rfl
  post payload d := by
    have hpost : session.client.post Desk.note (Desk.send transport) d.base payload d.forget =
        Prod.map id Desk.forget
          (session.client.post Desk.note (Desk.send (remembering transport)) d.base payload d) :=
      Client.post_map (send_forget transport) (fun _ _ _ => rfl) _ _ _ _
    rw [services_post, services_post, show d.forget.base = d.base from rfl, hpost]
    rfl
  deliver := deliver_forget session.target
  fallbackName := rfl
  codecs := rfl

/-! ### Waiting for a response -/

theorem services_alwaysShows (session : Session) (transport : Request → Act τ Response) :
    Cycle.AlwaysShows (session.services transport) := fun _ _ => rfl

/-- Posting is waiting for responses, and the last of them answers the post. -/
theorem post_waits {payload : Payload} {out : Except Fault Response}
    (h : (session.services (remembering transport)).post payload d = (out, d')) :
    Waits d d' ∧ ∀ r, out = .ok r → ∃ earlier, d'.heard = d.heard ++ earlier ++ [r] := by
  have hwaits : Waits d (session.client.post Desk.note (Desk.send (remembering transport)) d.base
      payload d).2 :=
    Client.post_onward Waits.refl Waits.trans (Desk.send_waits transport) Desk.note_waits
  rw [services_post] at h
  rcases hx : session.client.post Desk.note (Desk.send (remembering transport)) d.base payload d with
    ⟨answer, d₁⟩
  rw [hx] at h hwaits
  obtain ⟨rfl, rfl⟩ := Prod.mk.inj h
  refine ⟨hwaits, fun r hr => ?_⟩
  cases answer with
  | error f => exact absurd hr (by simp [Except.map])
  | ok x =>
    obtain ⟨q, d₂, hwaits₂, hlast⟩ :=
      Client.post_response Waits.refl Waits.trans (Desk.send_waits transport) Desk.note_waits hx
    obtain ⟨earlier, hearlier⟩ := hwaits₂.heard
    refine ⟨earlier, ?_⟩
    rw [Desk.send_heard hlast, ← hearlier, ← Except.ok.inj hr]

/-! ### What the steps of a cycle keep -/

theorem shown_keeps (session : Session) (transport : Request → Act τ Response) (text : Text)
    (d : Desk (τ × List Response)) :
    Keeps d (Cycle.shown (session.services (remembering transport)) text d) :=
  ⟨rfl, rfl, List.prefix_rfl⟩

theorem shown_message (text : Text) (d : Desk (τ × List Response)) :
    (Cycle.shown (session.services (remembering transport)) text d).message = some text := rfl

theorem ended_keeps (session : Session) (transport : Request → Act τ Response) (f : Fault)
    (d : Desk (τ × List Response)) :
    Keeps d (Cycle.ended (session.services (remembering transport)) f d).2 := by
  unfold Cycle.ended
  split
  · exact Keeps.refl d
  · cases f.describe with
    | error why => exact ⟨rfl, rfl, List.prefix_rfl⟩
    | ok told => exact ⟨rfl, rfl, List.prefix_rfl⟩

/-- A cycle that ends with a fault does not claim to have saved anything. -/
theorem ended_message (f : Fault) (h : d.message ≠ some Status.downloadStarted) :
    (Cycle.ended (session.services (remembering transport)) f d).2.message ≠
      some Status.downloadStarted := by
  unfold Cycle.ended
  split
  · exact h
  · cases f.describe with
    | error why => exact h
    | ok told => exact fun h => Status.error_ne_downloadStarted _ (Option.some.inj h)

theorem received_keeps (session : Session) (transport : Request → Act τ Response) (r : Response)
    (d : Desk (τ × List Response)) :
    Keeps d (Cycle.received (session.services (remembering transport)) r d) ∧
      (Cycle.received (session.services (remembering transport)) r d).heard = d.heard ∧
      (Cycle.received (session.services (remembering transport)) r d).message =
        some Status.generating := by
  unfold Cycle.received
  split
  · exact ⟨⟨rfl, rfl, List.prefix_rfl⟩, rfl, rfl⟩
  · exact ⟨⟨rfl, rfl, List.prefix_rfl⟩, rfl, rfl⟩

/-- When the response is there, all that happened is that it was waited for. -/
theorem answered_keeps {payload : Payload} {r : Response}
    (h : Cycle.Answered (session.services (remembering transport)) form d payload r d') :
    Keeps d d' ∧ d'.message = some Status.uploading ∧
      ∃ earlier, d'.heard = d.heard ++ earlier ++ [r] := by
  obtain ⟨hwaits, hlast⟩ := post_waits h.answer
  have hshown := (shown_keeps session transport Status.preparing d).trans
    (shown_keeps session transport Status.uploading _)
  exact ⟨hshown.trans hwaits.toKeeps, hwaits.message, hlast r rfl⟩

/-! ### How a cycle ends -/

/-- The cycle between the two desks saved the body of the response at the path, and says so. -/
structure Saves (session : Session) (p : Path) (r : Response) (body : Bytes)
    (d d' : Desk (τ × List Response)) : Prop where
  message : d'.message = some Status.downloadStarted
  heard : ∃ earlier, d'.heard = d.heard ++ earlier ++ [r]
  success : r.isSuccess = true
  read : r.read = .ok body
  delivers : ∃ name, fileNameOf (r.headers.get? dispositionField) = .ok name ∧
    session.target.Delivers body (name.getD session.fallbackName) p d.depot d'.depot

/-- The cycle between the two desks saved nothing, and does not say so. -/
structure Passes (session : Session) (d d' : Desk (τ × List Response)) : Prop where
  message : d'.message ≠ some Status.downloadStarted
  declines : session.target.Declines d.depot d'.depot

theorem passes_of_keeps (h : Keeps d d') (hm : d'.message ≠ some Status.downloadStarted) :
    session.Passes d d' := ⟨hm, h.depot ▸ Target.Declines.refl _ _⟩

theorem submit_eq (h : d.opened = true) (form : Form) :
    session.submit (remembering transport) form d =
      Cycle.run (session.services (remembering transport)) form d := by
  rw [submit, if_pos h]

/-- A wire that remembers does not change what a session does. -/
theorem submit_forget (session : Session) (transport : Request → Act τ Response) (form : Form)
    (d : Desk (τ × List Response)) : session.submit transport form d.forget =
      Prod.map id Desk.forget (session.submit (remembering transport) form d) := by
  unfold submit
  rw [show d.forget.opened = d.opened from rfl]
  split
  · exact Cycle.run_map (services_mapsTo session transport) form d
  · rfl

/-- A fault met by a cycle is met before it claims to have saved anything. -/
theorem met_message {f : Fault} {d₀ : Desk (τ × List Response)}
    (h : Cycle.Met (session.services (remembering transport)) form d f d₀) :
    d₀.message ≠ some Status.downloadStarted := by
  cases h with
  | unbuilt =>
    rw [shown_message]
    decide
  | unanswered complete built fault =>
    rw [(post_waits fault).1.message, shown_message]
    decide
  | unread answered =>
    rw [(answered_keeps answered).2.1]
    decide
  | broken =>
    rw [(received_keeps session transport _ _).2.2]
    decide
  | undelivered answered success arrived fault =>
    rw [(Desk.deliver_eq fault).2.1, (received_keeps session transport _ _).2.2]
    decide

/-- Where a fault is met, no archive was saved. -/
theorem met_declines (hfolder : session.target.folder.Proper) {f : Fault}
    {d₀ : Desk (τ × List Response)}
    (h : Cycle.Met (session.services (remembering transport)) form d f d₀) :
    d₀.opened = d.opened ∧ d.heard <+: d₀.heard ∧ session.target.Declines d.depot d₀.depot := by
  have hprepared := shown_keeps session transport Status.preparing d
  have hkept : ∀ {d₀}, Keeps d d₀ →
      d₀.opened = d.opened ∧ d.heard <+: d₀.heard ∧ session.target.Declines d.depot d₀.depot :=
    fun hk => ⟨hk.opened, hk.heard, hk.depot ▸ Target.Declines.refl _ _⟩
  cases h with
  | unbuilt => exact hkept hprepared
  | unanswered complete built fault =>
    have huploading := hprepared.trans (shown_keeps session transport Status.uploading _)
    exact hkept (huploading.trans (post_waits fault).1.toKeeps)
  | unread answered => exact hkept (answered_keeps answered).1
  | broken answered =>
    exact hkept ((answered_keeps answered).1.trans (received_keeps session transport _ _).1)
  | @undelivered _ r _ _ _ d₁ _ answered success arrived fault =>
    have hreceived := (answered_keeps answered).1.trans (received_keeps session transport r d₁).1
    obtain ⟨hrun, -, ho, hh⟩ := Desk.deliver_eq fault
    have hdeclines := Target.declines_of_error hfolder hrun
    rw [hreceived.depot] at hdeclines
    exact ⟨ho.trans hreceived.opened, hh ▸ hreceived.heard, hdeclines⟩

/-- A cycle that delivers the archive in a response saves it. -/
theorem delivered_saves (hfolder : session.target.folder.Proper) {payload : Payload} {r : Response}
    {body : Bytes} {name : Option Text} {p : Path} {d₁ d₂ : Desk (τ × List Response)}
    (answered : Cycle.Answered (session.services (remembering transport)) form d payload r d₁)
    (success : r.isSuccess = true)
    (arrived : Cycle.putAway r (Cycle.archive r) = .ok (body, name))
    (saved : Desk.deliver session.target body (name.getD session.fallbackName)
      (Cycle.received (session.services (remembering transport)) r d₁) = (.ok p, d₂)) :
    d₂.opened = d.opened ∧ d.heard <+: d₂.heard ∧ ∀ level record,
      session.Saves p r body d (Cycle.shown (session.services (remembering transport))
        Status.downloadStarted (Desk.note level record d₂)) := by
  obtain ⟨hk, -, earlier, hearlier⟩ := answered_keeps answered
  obtain ⟨hkr, hheard, -⟩ := received_keeps session transport r d₁
  have hreceived := hk.trans hkr
  obtain ⟨hrun, -, ho, hh⟩ := Desk.deliver_eq saved
  have hdelivers := Target.delivers_of_ok hfolder hrun
  rw [hreceived.depot] at hdelivers
  obtain ⟨hread, hname⟩ := Cycle.archive_eq_ok.mp (Cycle.putAway_eq_ok.mp arrived).2
  exact ⟨ho.trans hreceived.opened, hh ▸ hreceived.heard, fun level record =>
    { message := rfl
      heard := ⟨earlier, hh.trans (hheard.trans hearlier)⟩
      success := success
      read := hread
      delivers := ⟨name, hname, hdelivers⟩ }⟩

/-- **How a cycle of an open session ends**: it saves the body of the last response
and says so, or it saves nothing and does not say so. -/
theorem submit_cases (hfolder : session.target.folder.Proper) (hopened : d.opened = true)
    (transport : Request → Act τ Response) (form : Form) :
    ∃ d', (session.submit (remembering transport) form d).2 = d' ∧ d'.opened = true ∧
      d.heard <+: d'.heard ∧ ((∃ p r body, session.Saves p r body d d') ∨ session.Passes d d') := by
  have hcourse := Cycle.run_course (services_alwaysShows session (remembering transport)) form d
  rw [submit_eq hopened]
  generalize Cycle.run (session.services (remembering transport)) form d = result at hcourse ⊢
  -- a cycle that keeps the archives passes, whatever it shows
  have hpasses : ∀ d', Keeps d d' → d'.message ≠ some Status.downloadStarted →
      d'.opened = true ∧ d.heard <+: d'.heard ∧
        ((∃ p r body, session.Saves p r body d d') ∨ session.Passes d d') := fun d' hk hm =>
    ⟨hk.opened.trans hopened, hk.heard, Or.inr (passes_of_keeps hk hm)⟩
  refine ⟨result.2, rfl, ?_⟩
  cases hcourse with
  | lacking problem told =>
    obtain ⟨lack, -, rfl⟩ := Option.map_eq_some_iff.mp problem
    refine hpasses _ ((shown_keeps session transport Status.preparing d).trans
      (shown_keeps session transport _ _)) ?_
    rw [shown_message]
    cases lack <;> decide
  | @failed f d₀ met =>
    obtain ⟨ho, hh, hdeclines⟩ := met_declines hfolder met
    have hend := ended_keeps session transport f d₀
    refine ⟨hend.opened.trans (ho.trans hopened), hh.trans hend.heard, Or.inr ⟨?_, ?_⟩⟩
    · exact ended_message f (met_message met)
    · rw [hend.depot]
      exact hdeclines
  | refused answered refused told =>
    obtain ⟨hk, hm, -⟩ := answered_keeps answered
    refine hpasses _ (hk.trans (shown_keeps session transport _ _)) ?_
    rw [shown_message]
    exact fun h => Status.serverError_ne_downloadStarted _ _ (Option.some.inj h)
  | delivered answered success arrived saved =>
    obtain ⟨ho, hh, hsaves⟩ := delivered_saves hfolder answered success arrived saved
    exact ⟨ho.trans hopened, hh, Or.inl ⟨_, _, _, hsaves _ _⟩⟩

/-- A cycle passes a fault on exactly where it has met one: the user's interrupt itself, or one
that cannot be described. -/
theorem submit_eq_error {d d' : Desk τ} {g : Fault} (hopened : d.opened = true) :
    session.submit transport form d = (.error g, d') ↔
      ∃ f d₀, Cycle.Met (session.services transport) form d f d₀ ∧
        Cycle.ended (session.services transport) f d₀ = (.error g, d') := by
  rw [submit, if_pos hopened]
  exact Cycle.run_eq_error (services_alwaysShows session transport)

/-- A cycle that passes a fault on does not claim to have saved anything. -/
theorem submit_error_message (hopened : d.opened = true) {g : Fault}
    (h : session.submit (remembering transport) form d = (.error g, d')) :
    d'.message ≠ some Status.downloadStarted := by
  obtain ⟨f, d₀, hmet, hended⟩ := (submit_eq_error hopened).mp h
  have hmessage : (Cycle.ended (session.services (remembering transport)) f d₀).2.message ≠
      some Status.downloadStarted := ended_message f (met_message hmet)
  rwa [hended] at hmessage

/-- A cycle that passes a fault on saves nothing. -/
theorem submit_error_declines {d d' : Desk τ} (hfolder : session.target.folder.Proper)
    (hopened : d.opened = true) {g : Fault} (h : session.submit transport form d = (.error g, d')) :
    session.target.Declines d.depot d'.depot := by
  let heard : Desk (τ × List Response) := { d with wire := (d.wire, []) }
  have hheard : (session.submit (remembering transport) form heard).2.depot = d'.depot ∧
      (session.submit (remembering transport) form heard).1 = .error g := by
    have hforget := submit_forget session transport form heard
    rw [show heard.forget = d from rfl, h] at hforget
    obtain ⟨hout, hdesk⟩ := Prod.mk.inj hforget
    exact ⟨(congrArg Desk.depot hdesk).symm, hout.symm⟩
  obtain ⟨d₁, hd₁, -, -, ⟨p, r, body, hsaves⟩ | hpasses⟩ :=
    submit_cases (d := heard) hfolder hopened transport form
  · exact absurd hsaves.message
      (submit_error_message (d := heard) hopened (Prod.ext hheard.2 hd₁))
  · rw [← hheard.1, hd₁]
    exact hpasses.declines

end Session
end Courier
