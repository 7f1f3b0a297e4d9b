import Courier.Proofs.Command.Arguments
import Courier.Proofs.Command.Remembering
import Courier.Proofs.Session.Runs
import Courier.Proofs.Session.Told

/-!
# The exit code tells the truth

A command that gives the exit code 0 has added one file to the tree, and it says
where; with any other exit code it has added none. Whatever it gives, what stood in
the tree stands there still.

Key definitions: `Tree.NewFile`, `Command.Archived`, `Command.Refused`.
Key theorems: `Command.Course.archived_or_not`, `Command.exit_code_tells_truth`.
-/

namespace Courier

variable {τ : Type}

/-! ### New files -/

namespace Tree

variable {t t' : Tree} {p : Path} {r s : Route}

/-- A file stands in the second tree where nothing stood in the first. -/
def NewFile (t t' : Tree) (r : Route) : Prop :=
  t.entry? r = none ∧ ∃ e, t'.entry? r = some e ∧ e ≠ .folder

theorem not_newFile (t : Tree) (r : Route) : ¬ NewFile t t r := by
  rintro ⟨hnone, e, he, -⟩
  exact absurd (hnone.symm.trans he) (by simp)

/-- Where only folders are new, no file is. -/
theorem GrowsTowards.noFile (h : GrowsTowards p t t') (r : Route) : ¬ NewFile t t' r := by
  rintro ⟨hnone, e, he, hfile⟩
  exact hfile (h.fresh r e hnone he).1

/-- Where besides folders one route is new, no other file is. -/
theorem Grows.newFile_eq (h : Grows (fun s e => s = r ∨ e = .folder ∧ OnTheWay t' p s) t t')
    (hs : NewFile t t' s) : s = r := by
  obtain ⟨hnone, e, he, hfile⟩ := hs
  rcases h.fresh s e hnone he with rfl | ⟨hfolder, -⟩
  · rfl
  · exact absurd hfolder hfile

end Tree

namespace Target

/-- Every candidate for an archive can be read back from its text. -/
theorem candidate_spelled {target : Target} {p : Path} (h : target.folder.Spelled) {fileName : Text}
    {k : ℕ} (hk : Archive.candidate (target.wanted fileName) k = .ok p) : p.Spelled := by
  have hwanted : (target.wanted fileName).Spelled := Path.spelled_join h (Path.spelled_ofText _)
  have hslashes : p.slashes = (target.wanted fileName).slashes :=
    (Path.mk.inj (Archive.candidate_parent hk)).1
  exact ⟨Archive.candidate_proper hwanted.proper hk, hslashes ▸ hwanted.slashes⟩

end Target

namespace Command

variable {s : Surroundings τ} {o : Options} {tree : Tree} {env : Environment} {window : Window}
  {wire : τ}

/-! ### What a cycle of a command does -/

/-- A command on a tree ended so: it told a path at which the body of the last response, which
was a success, is saved in one new file. -/
structure Archived (tree : Tree) (w : World (τ × List Response)) (told : Text) (route : Route)
    (response : Response) (body : Bytes) : Prop where
  output : ∃ before, w.output = before ++ ("Saved: ".toList ++ told ++ ['\n'])
  new : tree.NewFile w.tree route
  only : ∀ r, tree.NewFile w.tree r → r = route
  route : w.tree.route (.ofText told) = .ok route
  read : w.tree.read (.ofText told) = .ok body
  arrived : response.read = .ok body
  last : w.desk.heard.getLast? = some response
  success : response.isSuccess = true
  whole : response.failure = none
  status : w.desk.journal.statuses.getLast? = some Status.downloadStarted

section Cycle

variable (e : Ready s.remembering o (World.start tree env window (wire, []))) (h : o.Spelled)

include h

/-- The cycle of a command saves an archive and ends by itself, or it saves none. -/
theorem Ready.cycle_cases :
    (e.cycle.1 = .ok () ∧ ∃ p r body, e.session.Saves p r body e.desk e.cycle.2) ∨
      e.session.Passes e.desk e.cycle.2 := by
  obtain ⟨d', hd', -, -, hcases⟩ := Session.submit_cases (d := e.desk) (e.folder_spelled h).proper rfl
    s.transport e.plan.form
  have hcycle : e.cycle.2 = d' := hd'
  rw [hcycle]
  rcases hcases with ⟨p, r, body, hsaves⟩ | hpasses
  · refine .inl ⟨?_, p, r, body, hsaves⟩
    cases hout : e.cycle.1 with
    | ok _ => rfl
    | error f =>
      exact absurd hsaves.message (Session.submit_error_message (d := e.desk) rfl (Prod.ext hout hcycle))
  · exact .inr hpasses

/-- A cycle that passes a fault on saves nothing. -/
theorem Ready.passes_of_error {f : Fault} (fault : e.cycle.1 = .error f) :
    e.session.Passes e.desk e.cycle.2 := by
  rcases e.cycle_cases h with ⟨hended, -⟩ | hpasses
  · rw [hended] at fault
    exact absurd fault (by simp)
  · exact hpasses

/-- A cycle after which no archive is the latest one has saved none. -/
theorem Ready.passes_of_unsaved (unsaved : e.closed.depot.lastSaved = none) :
    e.session.Passes e.desk e.cycle.2 := by
  rcases e.cycle_cases h with ⟨-, p, r, body, hsaves⟩ | hpasses
  · obtain ⟨name, -, hdelivers⟩ := hsaves.delivers
    have hsome : e.closed.depot.lastSaved = some p := hdelivers.lastSaved
    rw [hsome] at unsaved
    exact absurd unsaved (by simp)
  · exact hpasses

/-- The latest archive after a cycle is the one that it saved. -/
theorem Ready.saves_of_saved {p : Path} (saved : e.closed.depot.lastSaved = some p) :
    ∃ r body, e.session.Saves p r body e.desk e.cycle.2 := by
  rcases e.cycle_cases h with ⟨-, p', r, body, hsaves⟩ | hpasses
  · obtain ⟨name, -, hdelivers⟩ := hsaves.delivers
    obtain rfl : p' = p := Option.some.inj (hdelivers.lastSaved.symm.trans saved)
    exact ⟨r, body, hsaves⟩
  · have hnone : e.closed.depot.lastSaved = none := hpasses.declines.lastSaved
    rw [hnone] at saved
    exact absurd saved (by simp)

/-- A cycle that saves an archive adds the file that is told. -/
theorem Ready.archived {p : Path} {r : Response} {body : Bytes}
    (hsaves : e.session.Saves p r body e.desk e.cycle.2) :
    Tree.KeptIn tree e.closed.depot.tree ∧ ∃ route, Archived tree
      ((e.after e.closed).say ("Saved: ".toList ++ p.text ++ ['\n'])) p.text route r body := by
  obtain ⟨route, hkept⟩ := hsaves.kept e.plan.form
  obtain ⟨name, -, hdelivers⟩ := hsaves.delivers
  obtain ⟨k, hk⟩ := hdelivers.candidate
  obtain ⟨earlier, hearlier⟩ := hsaves.heard
  have htold : Path.ofText p.text = p :=
    Path.ofText_text (Target.candidate_spelled (e.folder_spelled h) hk)
  obtain ⟨-, route', n, hroute', hfile⟩ := Tree.read_eq_ok.mp hkept.read
  obtain rfl : route = route' := Except.ok.inj (hkept.route.symm.trans hroute')
  have htells : e.cycle.2.Tells := Session.submit_tells (d := e.desk) rfl e.plan.form
  refine ⟨hkept.grows.toKeptIn, route, ?_⟩
  exact {
    output := ⟨(e.after e.closed).output, rfl⟩
    new := ⟨hkept.vacant, _, hfile, by simp⟩
    only := fun r hr => hkept.grows.newFile_eq hr
    route := htold.symm ▸ hkept.route
    read := htold.symm ▸ hkept.read
    arrived := hsaves.read
    last := by
      have hheard : e.closed.heard = [] ++ earlier ++ [r] := hearlier
      exact hheard ▸ List.getLast?_concat
    success := hsaves.success
    whole := (Response.read_eq_ok.mp hsaves.read).2
    status := htells.symm.trans hsaves.message }

end Cycle

/-! ### The exit code -/

/-- **A command exits with 0 where it added the file that it tells, and else it added none.** -/
theorem Course.archived_or_not {code : Nat} {w : World (τ × List Response)}
    (hcourse : Course s.remembering o (World.start tree env window (wire, [])) (.ok code, w))
    (h : o.Spelled) (hschema : o.schema ≠ none) :
    Tree.KeptIn tree w.tree ∧
      ((code = success ∧ ∃ told route response body, Archived tree w told route response body) ∨
        code ≠ success ∧ ∀ r, ¬ tree.NewFile w.tree r) := by
  have hfailed : ∀ {w' : World (τ × List Response)}, code ≠ success → w'.tree = tree →
      Tree.KeptIn tree w'.tree ∧
        ((code = success ∧ ∃ told route response body, Archived tree w' told route response body) ∨
          code ≠ success ∧ ∀ r, ¬ tree.NewFile w'.tree r) := by
    intro w' hcode htree
    rw [htree]
    exact ⟨Tree.KeptIn.refl tree, .inr ⟨hcode, Tree.not_newFile tree⟩⟩
  have hpassed : ∀ {e : Ready s.remembering o (World.start tree env window (wire, []))}
      {w' : World (τ × List Response)}, code ≠ success → e.session.Passes e.desk e.cycle.2 →
      Tree.KeptIn tree e.closed.depot.tree ∧
        ((code = success ∧ ∃ told route response body, Archived tree w' told route response body) ∨
          code ≠ success ∧ ∀ r, ¬ tree.NewFile e.closed.depot.tree r) := fun hcode hpasses =>
    ⟨hpasses.declines.grows.toKeptIn, .inr ⟨hcode, hpasses.declines.grows.noFile⟩⟩
  generalize hx : ((Except.ok code : Except Fault Nat), w) = x at hcourse
  cases hcourse with
  | unset | unplanned =>
    obtain ⟨rfl, text, -, rfl⟩ := answer_eq_ok hx.symm
    exact hfailed (by decide) rfl
  | unleveled | unsized | undrawn | unsettled | unaddressed | undescribed =>
    exact absurd hx.symm error_ne_ok
  | manual e chosen => exact absurd chosen hschema
  | interrupted e fault =>
    obtain ⟨hcode, rfl⟩ := Prod.mk.inj hx
    obtain rfl := Except.ok.inj hcode
    exact hpassed (by decide) (e.passes_of_error h fault)
  | @saved e p ended saved =>
    obtain ⟨hcode, rfl⟩ := Prod.mk.inj hx
    obtain rfl := Except.ok.inj hcode
    obtain ⟨r, body, hsaves⟩ := e.saves_of_saved h saved
    obtain ⟨hkept, route, harchived⟩ := e.archived h hsaves
    exact ⟨hkept, .inl ⟨rfl, p.text, route, r, body, harchived⟩⟩
  | unsaved e ended unsaved =>
    obtain ⟨hcode, rfl⟩ := Prod.mk.inj hx
    obtain rfl := Except.ok.inj hcode
    exact hpassed (by decide) (e.passes_of_unsaved h unsaved)

/-- The command stops at what it was given: the file of variables cannot be used, an input or the
configuration is at fault, or the form lacks something. -/
inductive Refused (s : Surroundings τ) (o : Options) (w : World τ) : Prop
  | unset {f : Fault} {env : Environment}
    (fault : o.loadVariables w.tree w.environment = (.error f, env))
  | unplanned (e : Equipped s o w) {schema : Path} {f : Fault} (chosen : o.schema = some schema)
    (fault : o.plan schema (s.homeOf e.env) w.tree e.env = .error f)
  | lacking (e : Ready s o w) {lack : Form.Problem} (lacks : e.plan.form.problem? = some lack)

/-- A command that stops at what it was given fails, and sends nothing. -/
theorem Refused.fails {code : Nat} {w : World τ} (h : Refused s o (World.start tree env window wire))
    (hcode : follow s o (World.start tree env window wire) = (.ok code, w)) :
    code = failure ∧ w.desk.journal.requests = [] := by
  cases h with
  | unset fault =>
    obtain ⟨rfl, text, -, rfl⟩ := answer_eq_ok ((Course.unset fault).follow_eq.symm.trans hcode)
    exact ⟨rfl, rfl⟩
  | unplanned e chosen fault =>
    obtain ⟨rfl, text, -, rfl⟩ :=
      answer_eq_ok ((Course.unplanned e chosen fault).follow_eq.symm.trans hcode)
    exact ⟨rfl, rfl⟩
  | @lacking e lack lacks =>
    have hcycle : e.cycle = (.ok (), Cycle.shown (e.session.services s.transport) lack.message
        (Cycle.shown (e.session.services s.transport) Status.preparing e.desk)) := by
      have hproblem : (e.session.services s.transport).problem? e.plan.form = some lack.message :=
        congrArg (Option.map Form.Problem.message) lacks
      exact Cycle.run_of_problem (fun _ _ => rfl) hproblem lack.message_ne_nil
    have hfollow := (Course.unsaved e (by rw [hcycle]) (by rw [Ready.closed, hcycle]; rfl)).follow_eq
    obtain ⟨hfailure, rfl⟩ := Prod.mk.inj (hfollow.symm.trans hcode)
    refine ⟨(Except.ok.inj hfailure).symm, ?_⟩
    have hjournal : e.closed.journal.requests = [] := by
      rw [Ready.closed, hcycle]
      rfl
    exact hjournal

/-- The exit code 130 means that the cycle was interrupted. -/
theorem cancelled_iff {code : Nat} {w₀ w : World τ} (h : follow s o w₀ = (.ok code, w)) :
    code = cancelled ↔
      ∃ (e : Ready s o w₀) (f : Fault), e.cycle.1 = .error f ∧ f.isInterrupt = true := by
  constructor
  · rintro rfl
    have hcourse := follow_course s o w₀
    rw [h] at hcourse
    generalize hx : ((Except.ok cancelled : Except Fault Nat), w) = x at hcourse
    cases hcourse with
    | unset | unplanned => exact absurd (answer_eq_ok hx.symm).1 (by decide)
    | unleveled | unsized | undrawn | unsettled | unaddressed | undescribed =>
      exact absurd hx.symm error_ne_ok
    | manual | saved | unsaved =>
      exact absurd (Except.ok.inj (Prod.mk.inj hx).1) (by decide)
    | interrupted e fault interrupt => exact ⟨e, _, fault, interrupt⟩
  · rintro ⟨e, f, fault, interrupt⟩
    have hfollow := (Course.interrupted e fault interrupt).follow_eq
    exact (Except.ok.inj (Prod.mk.inj (hfollow.symm.trans h)).1).symm

/-- A tree with a schema file, and an archive that has the name of the next one. -/
def schemaAndArchive : Tree :=
  ⟨[(["s.sql".toList], .file 1 []), (["a.zip".toList], .file 2 [9])], [], 0, 974⟩

end Command
end Courier
