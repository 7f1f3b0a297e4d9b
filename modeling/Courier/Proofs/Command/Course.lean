import Courier.Command
import Courier.Proofs.Command.Arguments
import Courier.Proofs.Session.Cycles

/-!
# The courses that a command may take

A command with accepted options gets ready step by step: it sets the variables
and sets up the logging, it makes its plan, it shows the plan, and it opens a
session. At each step it may stop. What is left then is one cycle of the session,
which is interrupted, meets a fault that cannot be described, saves an archive, or
saves none.

Key definitions: `Command.Equipped`, `Command.Planned`, `Command.Shown`, `Command.Ready`,
`Command.Course`.
Key theorems: `Command.Course.follow_eq`, `Command.follow_course`.
-/

namespace Courier

variable {τ : Type}

theorem Client.base_eq_error {client : Client} {f : Fault} (h : client.base = .error f) :
    ∃ g, f = .address g :=
  mapError_eq_error h

namespace Command

/-! ### Getting ready -/

/-- The variables are set and the logging is set up. -/
structure Equipped (s : Surroundings τ) (o : Options) (w : World τ) where
  envFile : Option Path
  env : Environment
  mode : Text
  logging : Logging
  loaded : o.loadVariables w.tree w.environment = (.ok envFile, env)
  level : Logging.setUp env o.debug o.silent o.logLevel w.logging = (.ok mode, logging)

/-- The plan is made. -/
structure Planned (s : Surroundings τ) (o : Options) (w : World τ) extends Equipped s o w where
  schema : Path
  plan : Plan
  chosen : o.schema = some schema
  planned : o.plan schema (s.homeOf env) w.tree env = .ok plan

/-- The plan is shown. -/
structure Shown (s : Surroundings τ) (o : Options) (w : World τ) extends Planned s o w where
  width : Nat
  panel : Text
  sized : w.window.width s.terminals env = .ok width
  drawn : Summary.render width (plan.summary envFile mode) = .ok panel

/-- The session is open. -/
structure Ready (s : Surroundings τ) (o : Options) (w : World τ) extends Shown s o w where
  session : Session
  base : Url
  settled : Session.ofSettings (s.homeOf env) s.boundary s.codecs plan.settings = .ok session
  addressed : session.client.base = .ok base

variable {s : Surroundings τ} {o : Options} {w : World τ}

/-- The world with the variables set and the logging set up. -/
def Equipped.world (e : Equipped s o w) : World τ :=
  { w with environment := e.env, logging := e.logging }

/-- The world with the plan on the console. -/
def Shown.world (e : Shown s o w) : World τ := e.toEquipped.world.say e.panel

/-- The world after the session, given its desk. -/
def Shown.after (e : Shown s o w) (d : Desk τ) : World τ :=
  { e.world with desk := d }.say
    (Screen.ofJournal e.width (e.logging.width? s.terminals e.env) e.logging.shows d.journal)

/-- The desk on which the cycle starts. -/
def Ready.desk (e : Ready s o w) : Desk τ := { w.desk with base := some e.base, opened := true }

/-- The cycle of the command. -/
def Ready.cycle (e : Ready s o w) : Except Fault Unit × Desk τ :=
  e.session.submit s.transport e.plan.form e.desk

/-- The desk when the session is closed. -/
def Ready.closed (e : Ready s o w) : Desk τ := { e.cycle.2 with base := none }

/-- The session of a command saves in a folder that a text spells. -/
theorem Ready.folder_spelled (e : Ready s o w) (h : o.Spelled) :
    e.session.target.folder.Spelled := by
  have hsettings := Options.settings_spelled h (Options.plan_eq_ok e.planned).2.2.1
  exact Path.spelled_expandHome hsettings (Session.ofSettings_eq_ok e.settled).1

/-- A fault that is told to the user fails the command, and another one leaves it. -/
def answer (told : Option Text) (f : Fault) (w : World τ) : Except Fault Nat × World τ :=
  match told with
  | some text => (.ok failure, w.reject text)
  | none => (.error f, w)

theorem answer_eq_error {told : Option Text} {f g : Fault} {w' : World τ}
    (h : answer told f w = (.error g, w')) : told = none ∧ g = f ∧ w' = w := by
  cases told with
  | none =>
    obtain ⟨hf, rfl⟩ := Prod.mk.inj h
    exact ⟨rfl, (Except.error.inj hf).symm, rfl⟩
  | some text => exact absurd h.symm error_ne_ok

theorem answer_eq_ok {told : Option Text} {f : Fault} {code : Nat} {w' : World τ}
    (h : answer told f w = (.ok code, w')) :
    code = failure ∧ ∃ text, told = some text ∧ w' = w.reject text := by
  cases told with
  | none => exact absurd h error_ne_ok
  | some text =>
    obtain ⟨hcode, rfl⟩ := Prod.mk.inj h
    exact ⟨(Except.ok.inj hcode).symm, text, rfl, rfl⟩

/-- The courses of a command with accepted options, with what comes of each. -/
inductive Course (s : Surroundings τ) (o : Options) (w : World τ) :
    Except Fault Nat × World τ → Prop
  | unset {f : Fault} {env : Environment}
    (fault : o.loadVariables w.tree w.environment = (.error f, env)) :
    Course s o w (answer (Plan.variableComplaint? f) f { w with environment := env })
  | unleveled {envFile : Option Path} {env : Environment} {f : Fault} {logging : Logging}
    (loaded : o.loadVariables w.tree w.environment = (.ok envFile, env))
    (fault : Logging.setUp env o.debug o.silent o.logLevel w.logging = (.error f, logging)) :
    Course s o w (.error f, { w with environment := env, logging := logging })
  | manual (e : Equipped s o w) (chosen : o.schema = none) :
    Course s o w (.ok success, e.world.say (Manual.text (Manual.lineWidth s.terminals e.env)))
  | unplanned (e : Equipped s o w) {schema : Path} {f : Fault} (chosen : o.schema = some schema)
    (fault : o.plan schema (s.homeOf e.env) w.tree e.env = .error f) :
    Course s o w (answer (Plan.complaint? f) f e.world)
  | unsized (e : Planned s o w) {f : Fault}
    (fault : w.window.width s.terminals e.env = .error f) : Course s o w (.error f, e.world)
  | undrawn (e : Planned s o w) {width : Nat} {f : Fault}
    (sized : w.window.width s.terminals e.env = .ok width)
    (fault : Summary.render width (e.plan.summary e.envFile e.mode) = .error f) :
    Course s o w (.error f, e.world)
  | unsettled (e : Shown s o w) {f : Fault}
    (fault : Session.ofSettings (s.homeOf e.env) s.boundary s.codecs e.plan.settings = .error f) :
    Course s o w (.error f, e.after w.desk)
  | unaddressed (e : Shown s o w) {session : Session} {f : Fault}
    (settled : Session.ofSettings (s.homeOf e.env) s.boundary s.codecs e.plan.settings = .ok session)
    (fault : session.client.base = .error f) : Course s o w (.error f, e.after w.desk)
  | interrupted (e : Ready s o w) {f : Fault} (fault : e.cycle.1 = .error f)
    (interrupt : f.isInterrupt = true) :
    Course s o w (.ok cancelled, (e.after e.closed).complain "Cancelled.".toList)
  | undescribed (e : Ready s o w) {f : Fault} (fault : e.cycle.1 = .error f)
    (ordinary : f.isInterrupt = false) : Course s o w (.error f, e.after e.closed)
  | saved (e : Ready s o w) {p : Path} (ended : e.cycle.1 = .ok ())
    (saved : e.closed.depot.lastSaved = some p) :
    Course s o w (.ok success, (e.after e.closed).say ("Saved: ".toList ++ p.text ++ ['\n']))
  | unsaved (e : Ready s o w) (ended : e.cycle.1 = .ok ())
    (unsaved : e.closed.depot.lastSaved = none) : Course s o w (.ok failure, e.after e.closed)

/-! ### Every command takes one of the courses -/

theorem follow_equipped (e : Equipped s o w) : follow s o w =
    match o.schema with
    | none => (.ok success, e.world.say (Manual.text (Manual.lineWidth s.terminals e.env)))
    | some schema => proceed s o schema e.envFile e.mode e.world := by
  rw [follow, e.loaded]
  dsimp only
  rw [e.level]
  rfl

theorem follow_planned (e : Planned s o w) : follow s o w =
    match w.window.width s.terminals e.env with
    | .error f => (.error f, e.world)
    | .ok width =>
      match Summary.render width (e.plan.summary e.envFile e.mode) with
      | .error f => (.error f, e.world)
      | .ok panel => submit s width e.plan (e.world.say panel) := by
  have hplan : o.plan e.schema (s.homeOf e.world.environment) e.world.tree e.world.environment =
      .ok e.plan := e.planned
  rw [follow_equipped e.toEquipped, e.chosen]
  simp only [proceed, hplan]
  rfl

theorem follow_shown (e : Shown s o w) : follow s o w = submit s e.width e.plan e.world := by
  rw [follow_planned e.toPlanned, e.sized]
  dsimp only
  rw [e.drawn]
  rfl

/-- What becomes of a fault of the session. -/
theorem follow_shown_error (e : Shown s o w) {f : Fault} {d : Desk τ}
    (h : carryOut s e.env e.plan.settings e.plan.form w.desk = (.error f, d)) : follow s o w =
      if f.isInterrupt then (.ok cancelled, (e.after d).complain "Cancelled.".toList)
      else (.error f, e.after d) := by
  have hcarry : carryOut s e.world.environment e.plan.settings e.plan.form e.world.desk =
      (.error f, d) := h
  rw [follow_shown, submit, hcarry]
  rfl

theorem carryOut_ready (e : Ready s o w) :
    carryOut s e.env e.plan.settings e.plan.form w.desk =
      (e.cycle.1.map fun _ => e.closed.depot.lastSaved, e.closed) := by
  rw [carryOut, e.settled]
  dsimp only
  rw [Session.enter, e.addressed]
  rfl

/-- What becomes of a fault that the cycle passes on. -/
theorem follow_ready_error (e : Ready s o w) {f : Fault} (fault : e.cycle.1 = .error f) :
    follow s o w =
      if f.isInterrupt then (.ok cancelled, (e.after e.closed).complain "Cancelled.".toList)
      else (.error f, e.after e.closed) := by
  refine follow_shown_error e.toShown ?_
  rw [carryOut_ready, fault]
  rfl

theorem follow_ready (e : Ready s o w) (ended : e.cycle.1 = .ok ()) : follow s o w =
    match e.closed.depot.lastSaved with
    | some p => (.ok success, (e.after e.closed).say ("Saved: ".toList ++ p.text ++ ['\n']))
    | none => (.ok failure, e.after e.closed) := by
  have hcarry : carryOut s e.world.environment e.plan.settings e.plan.form e.world.desk =
      (.ok e.closed.depot.lastSaved, e.closed) := by
    rw [show e.world.environment = e.env from rfl, show e.world.desk = w.desk from rfl,
      carryOut_ready, ended]
    rfl
  rw [follow_shown e.toShown, submit, hcarry]
  cases e.closed.depot.lastSaved <;> rfl

variable {w' : World τ} {x : Except Fault Nat × World τ}

/-- **What a course says comes of it.** -/
theorem Course.follow_eq (h : Course s o w x) : follow s o w = x := by
  cases h with
  | unset fault =>
    rw [follow, fault]
    rfl
  | unleveled loaded fault =>
    rw [follow, loaded]
    dsimp only
    rw [fault]
  | manual e chosen => rw [follow_equipped e, chosen]
  | unplanned e chosen fault =>
    have hplan : o.plan _ (s.homeOf e.world.environment) e.world.tree e.world.environment =
        .error _ := fault
    rw [follow_equipped e, chosen]
    dsimp only
    rw [proceed, hplan]
    rfl
  | unsized e fault => rw [follow_planned e, fault]
  | undrawn e sized fault =>
    rw [follow_planned e, sized]
    dsimp only
    rw [fault]
  | @unsettled e f fault =>
    have hcarry : carryOut s e.env e.plan.settings e.plan.form w.desk = (.error f, w.desk) := by
      rw [carryOut, fault]
    rw [follow_shown_error e hcarry, if_neg]
    rcases Path.expandHome_eq_error (Session.ofSettings_eq_error fault) with rfl | rfl <;> decide
  | @unaddressed e session f settled fault =>
    have hcarry : carryOut s e.env e.plan.settings e.plan.form w.desk = (.error f, w.desk) := by
      rw [carryOut, settled]
      dsimp only
      rw [Session.enter, fault]
    obtain ⟨g, rfl⟩ := Client.base_eq_error fault
    rw [follow_shown_error e hcarry, if_neg (by simp [Fault.isInterrupt])]
  | interrupted e fault interrupt => rw [follow_ready_error e fault, if_pos interrupt]
  | undescribed e fault ordinary => rw [follow_ready_error e fault, if_neg (by simp [ordinary])]
  | saved e ended saved => rw [follow_ready e ended, saved]
  | unsaved e ended unsaved => rw [follow_ready e ended, unsaved]

/-- A cycle that is ready to be run takes the command to its end. -/
theorem ready_course (e : Ready s o w) : ∃ x, Course s o w x := by
  cases hcycle : e.cycle.1 with
  | error f =>
    cases hf : f.isInterrupt with
    | true => exact ⟨_, .interrupted e hcycle hf⟩
    | false => exact ⟨_, .undescribed e hcycle hf⟩
  | ok _ =>
    cases hsaved : e.closed.depot.lastSaved with
    | some p => exact ⟨_, .saved e hcycle hsaved⟩
    | none => exact ⟨_, .unsaved e hcycle hsaved⟩

/-- Once the plan is shown, all that can still stop the command is the opening of a session. -/
theorem shown_course (e : Shown s o w) : ∃ x, Course s o w x := by
  cases hsession : Session.ofSettings (s.homeOf e.env) s.boundary s.codecs e.plan.settings with
  | error f => exact ⟨_, .unsettled e hsession⟩
  | ok session =>
    cases hbase : session.client.base with
    | error f => exact ⟨_, .unaddressed e hsession hbase⟩
    | ok base => exact ready_course ⟨e, session, base, hsession, hbase⟩

/-- **Every command takes one of the courses.** The cases follow the steps of getting ready. -/
theorem follow_course (s : Surroundings τ) (o : Options) (w : World τ) :
    Course s o w (follow s o w) := by
  suffices h : ∃ x, Course s o w x by
    obtain ⟨x, hx⟩ := h
    rwa [hx.follow_eq]
  rcases hload : o.loadVariables w.tree w.environment with ⟨envFile | envFile, env⟩
  · exact ⟨_, .unset hload⟩
  rcases hlevel : Logging.setUp env o.debug o.silent o.logLevel w.logging with ⟨mode | mode, logging⟩
  · exact ⟨_, .unleveled hload hlevel⟩
  let equipped : Equipped s o w := ⟨envFile, env, mode, logging, hload, hlevel⟩
  cases hchosen : o.schema with
  | none => exact ⟨_, .manual equipped hchosen⟩
  | some schema =>
    cases hplan : o.plan schema (s.homeOf env) w.tree env with
    | error f => exact ⟨_, .unplanned equipped hchosen hplan⟩
    | ok plan =>
      let planned : Planned s o w := ⟨equipped, schema, plan, hchosen, hplan⟩
      cases hwidth : w.window.width s.terminals env with
      | error f => exact ⟨_, .unsized planned hwidth⟩
      | ok width =>
        cases hpanel : Summary.render width (plan.summary envFile mode) with
        | error f => exact ⟨_, .undrawn planned hwidth hpanel⟩
        | ok panel => exact shown_course ⟨planned, width, panel, hwidth, hpanel⟩

theorem run_eq_follow {arguments : List Text} (h : Arguments.parse arguments = .ok o) :
    run s arguments w = follow s o w := by
  rw [run, h]

/-- The exit codes of a command with accepted options. -/
theorem Course.code {code : Nat} (h : Course s o w (.ok code, w')) :
    code = success ∨ code = failure ∨ code = cancelled := by
  generalize hx : ((Except.ok code : Except Fault Nat), w') = x at h
  cases h with
  | unset | unplanned => exact .inr (.inl (answer_eq_ok hx.symm).1)
  | unleveled | unsized | undrawn | unsettled | unaddressed | undescribed => exact absurd hx.symm error_ne_ok
  | manual | saved => exact .inl (Except.ok.inj (Prod.mk.inj hx).1)
  | unsaved => exact .inr (.inl (Except.ok.inj (Prod.mk.inj hx).1))
  | interrupted => exact .inr (.inr (Except.ok.inj (Prod.mk.inj hx).1))

/-- Surroundings in which no user has a home folder, and no stream is a terminal. -/
def plain (transport : Request → Act τ Response) : Surroundings τ where
  homeOf _ _ := none
  boundary := "b".toList
  codecs := .none
  terminals := .none
  transport := transport

/-- A window with lines of 100 cells. -/
def wide : Window := ⟨some 100, none⟩

end Command
end Courier
