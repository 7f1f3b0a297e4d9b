import Courier.Proofs.Command.Course

/-!
# Commands over a wire that remembers

A wire that remembers the responses which come over it does not change what a
command does: whatever course it takes, it takes the same one without the memory.

Key definitions: `Surroundings.remembering`, `World.forget`.
Key theorem: `Command.follow_forget`.
-/

namespace Courier

variable {τ : Type}

/-- The surroundings, whose wire remembers the responses that come over it. -/
def Surroundings.remembering (s : Surroundings τ) : Surroundings (τ × List Response) where
  homeOf := s.homeOf
  boundary := s.boundary
  codecs := s.codecs
  terminals := s.terminals
  transport := Courier.remembering s.transport

/-- The world without the memory of what was heard. -/
def World.forget (w : World (τ × List Response)) : World τ where
  desk := w.desk.forget
  environment := w.environment
  window := w.window
  logging := w.logging
  output := w.output
  errors := w.errors

namespace Command

variable {s : Surroundings τ} {o : Options} {w : World (τ × List Response)}
  {x : Except Fault Nat × World (τ × List Response)}

/-- The variables and the log level were settled without the memory, too. -/
def Equipped.forget (e : Equipped s.remembering o w) : Equipped s o w.forget where
  envFile := e.envFile
  env := e.env
  mode := e.mode
  logging := e.logging
  loaded := e.loaded
  level := e.level

/-- The plan does not read the memory. -/
def Planned.forget (e : Planned s.remembering o w) : Planned s o w.forget where
  toEquipped := e.toEquipped.forget
  schema := e.schema
  plan := e.plan
  chosen := e.chosen
  planned := e.planned

/-- The panel that was drawn does not show the memory. -/
def Shown.forget (e : Shown s.remembering o w) : Shown s o w.forget where
  toPlanned := e.toPlanned.forget
  width := e.width
  panel := e.panel
  sized := e.sized
  drawn := e.drawn

/-- The session is the same one; only its wire is without the memory. -/
def Ready.forget (e : Ready s.remembering o w) : Ready s o w.forget where
  toShown := e.toShown.forget
  session := e.session
  base := e.base
  settled := e.settled
  addressed := e.addressed

theorem Ready.cycle_forget (e : Ready s.remembering o w) :
    e.forget.cycle = Prod.map id Desk.forget e.cycle :=
  Session.submit_forget e.session s.transport e.plan.form e.desk

theorem Ready.closed_forget (e : Ready s.remembering o w) : e.forget.closed = e.closed.forget := by
  rw [Ready.closed, e.cycle_forget]
  rfl

theorem answer_forget (told : Option Text) (f : Fault) (w : World (τ × List Response)) :
    answer told f w.forget = Prod.map id World.forget (answer told f w) := by
  cases told <;> rfl

/-- The course without the memory. -/
theorem Course.forget (h : Course s.remembering o w x) :
    Course s o w.forget (Prod.map id World.forget x) := by
  cases h with
  | unset fault =>
    rw [← answer_forget]
    exact .unset fault
  | unleveled loaded fault => exact .unleveled loaded fault
  | manual e chosen => exact .manual e.forget chosen
  | unplanned e chosen fault =>
    rw [← answer_forget]
    exact .unplanned e.forget chosen fault
  | unsized e fault => exact .unsized e.forget fault
  | undrawn e sized fault => exact .undrawn e.forget sized fault
  | unsettled e fault => exact .unsettled e.forget fault
  | unaddressed e settled fault => exact .unaddressed e.forget settled fault
  | interrupted e fault interrupt =>
    have hcourse : Course s o w.forget _ :=
      .interrupted e.forget (by rw [e.cycle_forget]; exact fault) interrupt
    rwa [e.closed_forget] at hcourse
  | undescribed e fault ordinary =>
    have hcourse : Course s o w.forget _ :=
      .undescribed e.forget (by rw [e.cycle_forget]; exact fault) ordinary
    rwa [e.closed_forget] at hcourse
  | @saved e p ended saved =>
    have hcourse : Course s o w.forget _ := .saved e.forget (by rw [e.cycle_forget]; exact ended)
      (p := p) (by rw [e.closed_forget]; exact saved)
    rwa [e.closed_forget] at hcourse
  | unsaved e ended unsaved =>
    have hcourse : Course s o w.forget _ := .unsaved e.forget (by rw [e.cycle_forget]; exact ended)
      (by rw [e.closed_forget]; exact unsaved)
    rwa [e.closed_forget] at hcourse

/-- **A wire that remembers does not change what a command does.** -/
theorem follow_forget (s : Surroundings τ) (o : Options) (w : World (τ × List Response)) :
    follow s o w.forget = Prod.map id World.forget (follow s.remembering o w) :=
  (follow_course s.remembering o w).forget.follow_eq

end Command
end Courier
