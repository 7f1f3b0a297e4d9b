import Courier.Proofs.Cycle.Keeping
import Courier.Proofs.Session.Runs

/-!
# Opening and closing a session

A session can be opened and closed in any order and any number of times, with forms
submitted in between. Whether requests leave is told by what was done last: while the
session is open, a cycle goes as it would in a session that was opened just now; once
it is closed, a form that is fit to be sent gets no further than the upload; and
before it was ever opened nothing happens at all.

Key definitions: `Session.Call`, `Session.afterCalls`, `Session.latestOpens?`, `Desk.resume`.
Key theorems: `Session.submit_resume`, `Session.submit_closed`, `Session.requests_only_while_open`.
-/

namespace Courier

variable {τ : Type}

namespace Desk

/-- The desk on which a session goes on that has a past: its journal comes after the one of
the past, and what it has not shown or saved yet is what the past has. -/
def resume (past d : Desk τ) : Desk τ :=
  { d with
    depot := ⟨d.depot.tree, d.depot.lastSaved.or past.depot.lastSaved⟩
    message := d.message.or past.message
    journal := past.journal ++ d.journal }

end Desk

namespace Session

/-- What can be done with a session. -/
inductive Call where
  | enter
  | leave
  | submit (form : Form)
  deriving DecidableEq, Repr

/-- Does the call open the session, does it close it, or does it do neither? -/
def Call.opens? : Call → Option Bool
  | .enter => some true
  | .leave => some false
  | .submit _ => none

/-- Whether the session was opened or closed last, if it was either. -/
def latestOpens? (calls : List Call) : Option Bool := (calls.filterMap Call.opens?).getLast?

/-- Makes a call. -/
def perform (session : Session) (transport : Request → Act τ Response) : Call → Act (Desk τ) Unit
  | .enter => session.enter
  | .leave => leave
  | .submit form => session.submit transport form

/-- The desk after calls. Whatever comes of one of them, the next one follows. -/
def afterCalls (session : Session) (transport : Request → Act τ Response) (calls : List Call)
    (d : Desk τ) : Desk τ := calls.foldl (fun d call => (session.perform transport call d).2) d

variable {session : Session} {transport : Request → Act τ Response} {form : Form} {d : Desk τ}
  {base : Url} {calls : List Call}

/-! ### What a cycle does not touch -/

/-- Whether a session is open is no matter of its cycles. -/
theorem services_keeps_opening (session : Session) (transport : Request → Act τ Response)
    (base : Option Url) (opened : Bool) :
    (session.services transport).Keeps fun d => d.base = base ∧ d.opened = opened where
  announce _ _ h := h
  note _ _ _ h := h
  post payload d h := by
    rw [services_post]
    exact Client.post_onward
      (R := fun a b : Desk τ =>
        a.base = base ∧ a.opened = opened → b.base = base ∧ b.opened = opened)
      (fun _ h => h) (fun hab hbc h => hbc (hab h)) (fun _ _ h => h) (fun _ _ _ h => h) h
  deliver body name d h := by
    change (Desk.deliver session.target body name d).2.base = base ∧
      (Desk.deliver session.target body name d).2.opened = opened
    unfold Desk.deliver
    split <;> exact h

theorem submit_opening (session : Session) (transport : Request → Act τ Response) (form : Form)
    (d : Desk τ) : (session.submit transport form d).2.base = d.base ∧
      (session.submit transport form d).2.opened = d.opened := by
  unfold submit
  split
  · exact Cycle.run_keeps (fun _ _ => rfl) (services_keeps_opening session transport _ _) form
      ⟨rfl, rfl⟩
  · exact ⟨rfl, rfl⟩

/-! ### What the calls come to -/

theorem afterCalls_concat (calls : List Call) (call : Call) (d : Desk τ) :
    session.afterCalls transport (calls ++ [call]) d =
      (session.perform transport call (session.afterCalls transport calls d)).2 := by
  unfold afterCalls
  rw [List.foldl_append]
  rfl

theorem latestOpens?_concat (calls : List Call) (call : Call) :
    latestOpens? (calls ++ [call]) = call.opens?.or (latestOpens? calls) := by
  unfold latestOpens?
  rw [List.filterMap_append, List.getLast?_append]
  cases call <;> rfl

theorem enter_eq (hbase : session.client.base = .ok base) (d : Desk τ) :
    session.enter d = (.ok (), { d with base := some base, opened := true }) := by
  rw [enter, hbase]

/-- **After calls a session stands open or closed as its latest opening or closing left it,**
and it was opened if it ever was. The induction is on the calls, from the last one. -/
theorem afterCalls_opening (hbase : session.client.base = .ok base)
    (transport : Request → Act τ Response) (tree : Tree) (wire : τ) (calls : List Call) :
    (session.afterCalls transport calls (Desk.start tree wire)).base =
        (if latestOpens? calls = some true then some base else none) ∧
      ((session.afterCalls transport calls (Desk.start tree wire)).opened = true ↔
        Call.enter ∈ calls) := by
  induction calls using List.reverseRecOn with
  | nil =>
    have hclosed : latestOpens? [] ≠ some true := by decide
    rw [if_neg hclosed]
    exact ⟨rfl, by simp [afterCalls, Desk.start]⟩
  | append_singleton calls call ih =>
    obtain ⟨hbefore, hopened⟩ := ih
    rw [afterCalls_concat, latestOpens?_concat, List.mem_append, List.mem_singleton]
    generalize session.afterCalls transport calls (Desk.start tree wire) = d at hbefore hopened ⊢
    cases call with
    | enter =>
      have henter : session.perform transport .enter d =
          (.ok (), { d with base := some base, opened := true }) := enter_eq hbase d
      rw [henter]
      exact ⟨rfl, iff_of_true rfl (.inr rfl)⟩
    | leave => exact ⟨rfl, hopened.trans (by simp)⟩
    | submit form =>
      obtain ⟨hkept, hkeptOpened⟩ := submit_opening session transport form d
      have hperform : session.perform transport (.submit form) d =
          session.submit transport form d := rfl
      rw [hperform, hkept, hkeptOpened]
      exact ⟨hbefore, hopened.trans (by simp)⟩

/-! ### A cycle of an open session -/

/-- The past goes along with all that a session does. -/
theorem services_mapsTo_resume (session : Session) (transport : Request → Act τ Response)
    (past : Desk τ) :
    (session.services transport).MapsTo past.resume (session.services transport) where
  announce text d := by
    refine Prod.ext rfl ?_
    simp [services, Desk.announce, Desk.happened, Desk.resume, List.append_assoc]
  note level text d := by
    simp [services, Desk.note, Desk.happened, Desk.resume, List.append_assoc]
  problem? := rfl
  payload := rfl
  post payload d := by
    have hsend : ∀ (q : Request) (d : Desk τ), Desk.send transport q (past.resume d) =
        Prod.map id past.resume (Desk.send transport q d) := fun q d => by
      unfold Desk.send
      rw [show (past.resume d).wire = d.wire from rfl]
      rcases transport q d.wire with ⟨answer, wire⟩
      simp [Desk.happened, Desk.resume, List.append_assoc]
    have hnote : ∀ (level : Level) (text : Text) (d : Desk τ),
        Desk.note level text (past.resume d) = past.resume (Desk.note level text d) :=
      fun level text d => by
        simp [Desk.note, Desk.happened, Desk.resume, List.append_assoc]
    have hpost := Client.post_map hsend hnote session.client d.base payload d
    rw [services_post, services_post, show (past.resume d).base = d.base from rfl, hpost]
    rfl
  deliver body name d := by
    change Desk.deliver session.target body name (past.resume d) =
      Prod.map id past.resume (Desk.deliver session.target body name d)
    unfold Desk.deliver Target.deliver
    rw [show (past.resume d).depot.tree = d.depot.tree from rfl]
    rcases session.target.save body name d.depot.tree with ⟨saved, tree⟩
    cases saved with
    | error f => rfl
    | ok p => simp [Desk.note, Desk.happened, Desk.resume, List.append_assoc]
  fallbackName := rfl
  codecs := rfl

/-- **A cycle of an open session goes as in a session that was opened just now** on the same tree
and wire, and leaves the past as it is. -/
theorem submit_resume (hopened : d.opened = true) (hopen : d.base = some base)
    (transport : Request → Act τ Response) (form : Form) :
    session.submit transport form d = Prod.map id d.resume
      (session.submit transport form
        { Desk.start d.depot.tree d.wire with base := some base, opened := true }) := by
  have hpast : d.resume { Desk.start d.depot.tree d.wire with base := some base, opened := true } =
      d := by
    obtain ⟨⟨tree, lastSaved⟩, message, journal, base', opened, wire⟩ := d
    obtain rfl : opened = true := hopened
    obtain rfl : base' = some base := hopen
    simp [Desk.resume, Desk.start]
  calc session.submit transport form d
      = Cycle.run (session.services transport) form d := by rw [submit, if_pos hopened]
    _ = Prod.map id d.resume (Cycle.run (session.services transport) form
          { Desk.start d.depot.tree d.wire with base := some base, opened := true }) := by
        rw [← Cycle.run_map (services_mapsTo_resume session transport d), hpast]
    _ = Prod.map id d.resume (session.submit transport form
          { Desk.start d.depot.tree d.wire with base := some base, opened := true }) := by
        rw [submit, if_pos rfl]

/-! ### A cycle that sends nothing -/

/-- Between the two desks the texts were shown, and nothing was sent or saved. -/
structure Shows (texts : List Text) (d d' : Desk τ) : Prop where
  depot : d'.depot = d.depot
  wire : d'.wire = d.wire
  requests : d'.journal.requests = d.journal.requests
  statuses : d'.journal.statuses = d.journal.statuses ++ texts
  message : d'.message = texts.getLast?.or d.message

theorem Shows.refl (d : Desk τ) : Shows [] d d :=
  ⟨rfl, rfl, rfl, (List.append_nil _).symm, rfl⟩

theorem Shows.shown {texts : List Text} {d d' : Desk τ} (h : Shows texts d d') (session : Session)
    (transport : Request → Act τ Response) (text : Text) :
    Shows (texts ++ [text]) d (Cycle.shown (session.services transport) text d') where
  depot := h.depot
  wire := h.wire
  requests := by
    rw [← h.requests]
    simp [Cycle.shown, services, Desk.announce, Desk.happened, Board.statusRecord,
      Journal.requests]
  statuses := by
    rw [← List.append_assoc, ← h.statuses]
    simp [Cycle.shown, services, Desk.announce, Desk.happened, Board.statusRecord,
      Journal.statuses]
  message := by
    rw [List.getLast?_concat]
    rfl

theorem Shows.note {texts : List Text} {d d' : Desk τ} (h : Shows texts d d') (level : Level)
    (text : Text) : Shows texts d (Desk.note level text d') where
  depot := h.depot
  wire := h.wire
  requests := by
    rw [← h.requests]
    simp [Desk.note, Desk.happened, Journal.requests]
  statuses := by
    rw [← h.statuses]
    simp [Desk.note, Desk.happened, Journal.statuses]
  message := h.message

variable (session transport)

/-- A form that lacks something is told so, whether the session is open or closed. -/
theorem submit_lacking (hopened : d.opened = true) {problem : Form.Problem}
    (hproblem : form.problem? = some problem) : ∃ d', session.submit transport form d = (.ok (), d') ∧
      Shows [Status.preparing, problem.message] d d' := by
  have htold : (session.services transport).problem? form = some problem.message := by
    change form.problem?.map Form.Problem.message = some problem.message
    rw [hproblem]
    rfl
  refine ⟨_, ?_, ((Shows.refl d).shown session transport Status.preparing).shown session transport
    problem.message⟩
  rw [submit, if_pos hopened]
  exact Cycle.run_of_problem (fun _ _ => rfl) htold problem.message_ne_nil

/-- **A form that is fit to be sent gets no further than the upload once the session is closed,**
and the user is told so. -/
theorem submit_closed (hopened : d.opened = true) (hclosed : d.base = none)
    (hfit : form.problem? = none) : ∃ d', session.submit transport form d = (.ok (), d') ∧
      Shows [Status.preparing, Status.uploading, Status.error Fault.clientClosed.message] d d' := by
  have hcomplete : Cycle.Complete (session.services transport) form := by
    intro text htext
    have hproblem : form.problem?.map Form.Problem.message = some text := htext
    rw [hfit] at hproblem
    exact absurd hproblem (by simp)
  obtain ⟨payload, hbuilt⟩ : ∃ payload, form.payload = .ok payload := by
    cases hpayload : form.payload with
    | ok payload => exact ⟨payload, rfl⟩
    | error f =>
      exact absurd (Form.payload_eq_error.mp hpayload).1 (Form.problem?_eq_none.mp hfit).1
  have huploading := ((Shows.refl d).shown session transport Status.preparing).shown session
    transport Status.uploading
  have hpost : (session.services transport).post payload
      (Cycle.shown (session.services transport) Status.uploading
        (Cycle.shown (session.services transport) Status.preparing d)) =
      (.error .clientClosed, Cycle.shown (session.services transport) Status.uploading
        (Cycle.shown (session.services transport) Status.preparing d)) := by
    rw [services_post, show (Cycle.shown (session.services transport) Status.uploading
      (Cycle.shown (session.services transport) Status.preparing d)).base = none from hclosed]
    rfl
  have hwords : Fault.clientClosed.describe = .ok Fault.clientClosed.message := by decide
  refine ⟨_, ?_, (huploading.note .error Cycle.failedRecord).shown session transport
    (Status.error Fault.clientClosed.message)⟩
  rw [submit, if_pos hopened, (Cycle.Met.unanswered hcomplete hbuilt hpost).run_eq fun _ _ => rfl,
    Cycle.ended, if_neg (by decide), hwords]
  rfl

variable {session}

/-- **Requests leave only while a session is open.** After any calls, a form that is submitted to a
session that was never opened is refused as such, and nothing happens. Where the session was
opened last, a whole cycle is run, as in a session that was opened just now on the same tree and
wire. Where it was closed last, nothing is sent, nothing is saved and no fault comes out; a form
that is fit to be sent is told that the client is closed, after the upload was announced. A
form that lacks something is never sent. To close the session does no more than that. -/
theorem requests_only_while_open (hbase : session.client.base = .ok base)
    (transport : Request → Act τ Response) (tree : Tree) (wire : τ) (calls : List Call) :
    ∃ d, session.afterCalls transport calls (Desk.start tree wire) = d ∧
      (Call.enter ∉ calls → ∀ form, session.submit transport form d = (.error .neverOpened, d)) ∧
      (latestOpens? calls = some true → ∃ fresh : Desk τ,
        session.enter (Desk.start d.depot.tree d.wire) = (.ok (), fresh) ∧
        ∀ form, session.submit transport form d = Cycle.run (session.services transport) form d ∧
          session.submit transport form d =
            Prod.map id d.resume (session.submit transport form fresh)) ∧
      (Call.enter ∈ calls → latestOpens? calls = some false → ∀ form, ∃ d' texts,
        session.submit transport form d = (.ok (), d') ∧ Shows texts d d' ∧
        (form.problem? = none → texts =
          [Status.preparing, Status.uploading, Status.error Fault.clientClosed.message])) ∧
      (∀ form, form.problem? ≠ none → ∃ texts,
        Shows texts d (session.submit transport form d).2) ∧
      leave d = (.ok (), { d with base := none }) := by
  obtain ⟨hopen, hopened⟩ := afterCalls_opening hbase transport tree wire calls
  generalize session.afterCalls transport calls (Desk.start tree wire) = d at hopen hopened ⊢
  refine ⟨d, rfl, fun hnever form => ?_, fun hlatest => ?_, fun hever hlatest form => ?_,
    fun form hlacking => ?_, rfl⟩
  · rw [submit, if_neg fun h => hnever (hopened.mp h)]
  · rw [if_pos hlatest] at hopen
    have hever : Call.enter ∈ calls := by
      obtain ⟨call, hcall, hopens⟩ := List.mem_filterMap.mp (List.mem_of_getLast? hlatest)
      cases call with
      | enter => exact hcall
      | leave => exact absurd hopens (by decide)
      | submit form => exact absurd hopens (by simp [Call.opens?])
    exact ⟨_, enter_eq hbase _, fun form => ⟨by rw [submit, if_pos (hopened.mpr hever)],
      submit_resume (hopened.mpr hever) hopen transport form⟩⟩
  · rw [if_neg (by simp [hlatest])] at hopen
    cases hfit : form.problem? with
    | none =>
      obtain ⟨d', hsubmit, hshows⟩ := submit_closed session transport (hopened.mpr hever) hopen
        hfit
      exact ⟨d', _, hsubmit, hshows, fun _ => rfl⟩
    | some problem =>
      obtain ⟨d', hsubmit, hshows⟩ := submit_lacking session transport
        (hopened.mpr hever) hfit
      exact ⟨d', _, hsubmit, hshows, fun h => absurd h (by simp)⟩
  · obtain ⟨problem, hproblem⟩ := Option.ne_none_iff_exists'.mp hlacking
    by_cases hever : d.opened = true
    · obtain ⟨d', hsubmit, hshows⟩ := submit_lacking session transport hever hproblem
      refine ⟨[Status.preparing, problem.message], ?_⟩
      rw [hsubmit]
      exact hshows
    · have hrefused : session.submit transport form d = (.error .neverOpened, d) := by
        rw [submit, if_neg hever]
      exact ⟨[], hrefused ▸ Shows.refl d⟩

/-- A session that is opened twice, serves a form and is closed twice does not serve another. -/
theorem closed_twice_sends_nothing : ∃ base, outSession.client.base = .ok base ∧
    ∃ d, outSession.afterCalls scripted [.leave, .enter, .enter, .submit .shop, .leave, .leave]
      (Desk.start ⟨[], [], 0, 974⟩ [.ok (zipResponse "attachment; filename=a.zip".toList [1])]) = d ∧
    ∃ d', outSession.submit scripted .shop d = (.ok (), d') ∧
      d'.journal.requests.length = 1 ∧ d'.depot = d.depot ∧
      d'.message = some (Status.error Fault.clientClosed.message) := by
  have hbase : ∃ base, outSession.client.base = .ok base := ⟨_, rfl⟩
  obtain ⟨base, hbase⟩ := hbase
  refine ⟨base, hbase, ?_⟩
  obtain ⟨d, hd, -, -, hclosed, -⟩ := requests_only_while_open hbase scripted ⟨[], [], 0, 974⟩
    [.ok (zipResponse "attachment; filename=a.zip".toList [1])]
    [.leave, .enter, .enter, .submit .shop, .leave, .leave]
  obtain ⟨d', texts, hsubmit, hshows, htexts⟩ := hclosed (by decide) (by decide) .shop
  refine ⟨d, hd, d', hsubmit, ?_, hshows.depot, ?_⟩
  · rw [hshows.requests, ← hd]
    decide +kernel
  · rw [hshows.message, htexts (by decide)]
    rfl

end Session
end Courier
