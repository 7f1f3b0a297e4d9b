import Courier.Proofs.Command.Course
import Courier.Proofs.Console.Markup
import Courier.Proofs.Tree.Operations

/-!
# The faults that a command lets out

A command with accepted options gives one of its exit codes, or it lets a fault
out. It lets out what goes wrong while it gets ready and is not told to the user:
bytes of the file of variables that are no text and null characters in it, a
path that is too long where such a file is looked for, a name that is no level, a
home folder that is not known, a size of the screen that is no number or beyond all
measure, markup in what the summary shows, and an address that is none. By then
nothing was sent and no file was touched.

Once the session is open, what gets out is what comes of asking a fault for words
that it has not. Then no file was added.

Key definitions: `Fault.isUnheld`, `Command.Escapes`, `Command.Undescribed`.
Key theorems: `Command.Escapes.isUnheld`, `Command.run_escapes`.
-/

namespace Courier

/-- The kinds of faults that a command lets out. -/
def Fault.isUnheld (f : Fault) : Bool :=
  f.isMarkup ||
    match f with
    | .system .nameTooLong _ none | .nullCharacter | .notUtf8 _ | .notALevel _ | .noLevel _
    | .unknownHome | .badSize _ | .tooWide | .address _ => true
    | _ => false

variable {τ : Type} {f : Fault}

theorem Fault.isUnheld_of_isMarkup (h : f.isMarkup = true) : f.isUnheld = true := by
  unfold isUnheld
  rw [h]
  rfl

theorem Path.expandHome_unheld {homeOf : Text → Option Text} {p : Path}
    (h : p.expandHome homeOf = .error f) : f.isUnheld = true := by
  rcases expandHome_eq_error h with rfl | rfl <;> rfl

/-! ### The variables -/

namespace EnvFile

variable {t : Tree} {p : Path} {override : Bool} {env env' : Environment}

theorem assign_eq_error {pairs : List (Text × Text)} (h : assign override pairs env = (.error f, env')) :
    f = .nullCharacter := by
  induction pairs generalizing env with
  | nil => exact absurd h.symm error_ne_ok
  | cons pair rest ih =>
    obtain ⟨key, value⟩ := pair
    rw [assign] at h
    split at h
    · split at h
      · exact (Except.error.inj (Prod.mk.inj h).1).symm
      · exact ih h
    · exact ih h

/-- A file of variables that cannot be read is told to the user where the system says so. -/
theorem readText_eq_error (h : readText t p = .error f) :
    (∃ text, f = .unusable text) ∨ f.isUnheld = true := by
  unfold readText at h
  split at h
  · rename_i hexists
    obtain rfl := Except.error.inj h
    exact .inr (Tree.exists?_eq_error hexists ▸ rfl)
  · exact .inl ⟨_, (Except.error.inj h).symm⟩
  · rename_i hfile
    obtain rfl := Except.error.inj h
    exact .inr (Tree.isFile?_eq_error hfile ▸ rfl)
  · exact .inl ⟨_, (Except.error.inj h).symm⟩
  · split at h
    · rename_i hread
      split at h
      · exact .inl ⟨_, (Except.error.inj h).symm⟩
      · rename_i hsystem
        obtain rfl := Except.error.inj h
        rcases Tree.read_eq_error hread with hf | rfl
        · exact absurd hf hsystem
        · exact .inr rfl
    · obtain ⟨g, rfl⟩ := mapError_eq_error h
      exact .inr rfl

theorem load_eq_error (h : load t p override env = (.error f, env')) :
    (∃ text, f = .unusable text) ∨ f.isUnheld = true := by
  unfold load at h
  split at h
  · rename_i hread
    exact Except.error.inj (Prod.mk.inj h).1 ▸ readText_eq_error hread
  · exact .inr (assign_eq_error h ▸ rfl)

end EnvFile

namespace Options

variable {o : Options} {t : Tree} {env env' : Environment}

theorem loadVariables_unheld (h : o.loadVariables t env = (.error f, env'))
    (huntold : Plan.variableComplaint? f = .none) : f.isUnheld = true := by
  have hcases : (∃ text, f = .unusable text) ∨ f.isUnheld = true := by
    unfold loadVariables at h
    split at h
    · rename_i hfile
      obtain rfl := Except.error.inj (Prod.mk.inj h).1
      unfold variableFile? at hfile
      split at hfile
      · exact absurd hfile (by simp)
      · exact .inr (Tree.isFile?_eq_error (map_eq_error hfile) ▸ rfl)
    · exact absurd h.symm error_ne_ok
    · split at h
      · rename_i hload
        obtain rfl := Except.error.inj (Prod.mk.inj h).1
        exact EnvFile.load_eq_error hload
      · exact absurd h.symm error_ne_ok
  rcases hcases with ⟨text, rfl⟩ | hunheld
  · exact absurd huntold (by simp [Plan.variableComplaint?])
  · exact hunheld

/-! ### The plan -/

/-- The faults of a chosen file that are not told to the user are those of its home folder. -/
theorem checkInput_unheld {homeOf : Text → Option Text} {label : Text} {p : Path}
    (h : Form.checkInput homeOf t label p = .error f) (huntold : Plan.complaint? f = .none) :
    f.isUnheld = true := by
  unfold Form.checkInput at h
  split at h
  · rename_i hhome
    exact Except.error.inj h ▸ Path.expandHome_unheld hhome
  · split at h
    · rename_i hexists
      obtain rfl := Except.error.inj h
      exact Tree.exists?_eq_error hexists ▸ rfl
    · obtain rfl := Except.error.inj h
      exact absurd huntold (by simp [Plan.complaint?])
    · rename_i hfile
      obtain rfl := Except.error.inj h
      exact Tree.isFile?_eq_error hfile ▸ rfl
    · obtain rfl := Except.error.inj h
      exact absurd huntold (by simp [Plan.complaint?])
    · exact absurd h (by simp)

theorem partAt_unheld {p : Option Path} (h : Form.partAt t p = .error f)
    (huntold : Plan.complaint? f = .none) : f.isUnheld = true := by
  unfold Form.partAt at h
  split at h
  · exact absurd h (by simp)
  · rcases Tree.read_eq_error (map_eq_error (map_eq_error h)) with hsystem | rfl
    · cases f with
      | system => exact absurd huntold (by simp [Plan.complaint?])
      | _ => exact absurd hsystem (by simp [Fault.isSystem])
    · rfl

theorem fromPaths_unheld {schema overrides : Option Path} {project : Option Text}
    (h : Form.fromPaths t schema project overrides = .error f)
    (huntold : Plan.complaint? f = .none) : f.isUnheld = true := by
  unfold Form.fromPaths at h
  split at h
  · rename_i hpart
    exact partAt_unheld (Except.error.inj h ▸ hpart) huntold
  · split at h
    · rename_i hpart
      exact partAt_unheld (Except.error.inj h ▸ hpart) huntold
    · exact absurd h (by simp)

theorem checkedOverrides_unheld {homeOf : Text → Option Text}
    (h : o.checkedOverrides homeOf t = .error f) (huntold : Plan.complaint? f = .none) :
    f.isUnheld = true := by
  unfold Options.checkedOverrides at h
  split at h
  · exact absurd h (by simp)
  · exact checkInput_unheld (map_eq_error h) huntold

theorem settings_complaint (h : o.settings env = .error f) : ∃ raw, f = .badTimeout raw := by
  unfold Options.settings Settings.fromEnvironment at h
  split at h
  · rename_i htimeout
    obtain rfl := Except.error.inj h
    unfold Settings.environmentTimeout at htimeout
    split at htimeout
    · exact absurd htimeout (by simp)
    · split at htimeout
      · exact absurd htimeout (by simp)
      · exact ⟨_, (Except.error.inj htimeout).symm⟩
  · exact absurd h (by simp)

theorem plan_unheld {schema : Path} {homeOf : Text → Option Text}
    (h : o.plan schema homeOf t env = .error f) (huntold : Plan.complaint? f = .none) :
    f.isUnheld = true := by
  unfold Options.plan at h
  split at h
  · rename_i hschema
    exact checkInput_unheld (Except.error.inj h ▸ hschema) huntold
  · split at h
    · rename_i hoverrides
      exact checkedOverrides_unheld (Except.error.inj h ▸ hoverrides) huntold
    · split at h
      · rename_i hsettings
        obtain ⟨raw, rfl⟩ := settings_complaint hsettings
        obtain rfl := Except.error.inj h
        exact absurd huntold (by simp [Plan.complaint?])
      · split at h
        · rename_i hform
          exact fromPaths_unheld (Except.error.inj h ▸ hform) huntold
        · exact absurd h (by simp)

end Options

/-! ### The windows -/

namespace Window

variable {env : Environment}

theorem told_eq_error {variable_ : Text} (h : told env variable_ = .error f) : f.isUnheld = true := by
  unfold told at h
  split at h
  · exact absurd h (by simp)
  · obtain ⟨g, rfl⟩ := mapError_eq_error h
    rfl

/-- Asking for both parts of a size fails only where one of them is no number. -/
theorem size_unheld {α : Type} {size : Option ℕ → Option ℕ → α}
    (h : (do
      let columns ← told env widthVariable
      let rows ← told env heightVariable
      return size columns rows) = Except.error f) : f.isUnheld = true := by
  rcases bind_eq_error h with hcolumns | ⟨columns, -, h⟩
  · exact told_eq_error hcolumns
  · rcases bind_eq_error h with hrows | ⟨rows, -, h⟩
    · exact told_eq_error hrows
    · exact absurd h (by simp [pure, Except.pure])

theorem opened_unheld (h : opened env = .error f) : f.isUnheld = true := size_unheld h

theorem width_unheld {w : Window} {terminals : Terminals} (h : w.width terminals env = .error f) :
    f.isUnheld = true := by
  unfold width at h
  split at h
  · exact absurd h (by simp)
  · split at h
    · exact absurd h (by simp)
    · exact size_unheld h

end Window

namespace Logging

theorem rankOf_unheld {name : Text} (h : rankOf name = .error f) : f.isUnheld = true := by
  unfold rankOf at h
  split at h
  · exact absurd h (by simp)
  · exact Except.error.inj h ▸ rfl
  · exact Except.error.inj h ▸ rfl

theorem windowIn_unheld {l : Logging} {env : Environment} (h : l.windowIn env = .error f) :
    f.isUnheld = true := by
  unfold windowIn at h
  split at h
  · exact absurd h (by simp)
  · exact Window.opened_unheld h

theorem setUp_unheld {env : Environment} {debug silent : Bool} {name : Option Text} {l l' : Logging}
    (h : setUp env debug silent name l = (.error f, l')) : f.isUnheld = true := by
  unfold setUp at h
  split at h
  · exact absurd h.symm error_ne_ok
  · split at h
    · rename_i hwindow
      exact Except.error.inj (Prod.mk.inj h).1 ▸ windowIn_unheld hwindow
    · split at h
      · rename_i hrank
        obtain rfl := Except.error.inj (Prod.mk.inj h).1
        split at hrank
        · exact absurd hrank (by simp)
        · exact rankOf_unheld hrank
      · exact absurd h.symm error_ne_ok

end Logging

theorem Summary.render_unheld {width : Nat} {items : Table Value} (h : render width items = .error f) :
    f.isUnheld = true := by
  rcases render_eq_error h with hmarkup | rfl
  · exact Fault.isUnheld_of_isMarkup hmarkup
  · rfl

namespace Command

/-! ### What gets out -/

/-- The faults that a command lets out as it gets ready, each with the step at which it occurs. -/
inductive Escapes (s : Surroundings τ) (o : Options) (w : World τ) : Fault → Prop
  | unset {f : Fault} {env : Environment}
    (fault : o.loadVariables w.tree w.environment = (.error f, env))
    (untold : Plan.variableComplaint? f = none) : Escapes s o w f
  | unleveled {envFile : Option Path} {env : Environment} {f : Fault} {logging : Logging}
    (loaded : o.loadVariables w.tree w.environment = (.ok envFile, env))
    (fault : Logging.setUp env o.debug o.silent o.logLevel w.logging = (.error f, logging)) :
    Escapes s o w f
  | unplanned (e : Equipped s o w) {schema : Path} {f : Fault} (chosen : o.schema = some schema)
    (fault : o.plan schema (s.homeOf e.env) w.tree e.env = .error f)
    (untold : Plan.complaint? f = none) : Escapes s o w f
  | unsized (e : Planned s o w) {f : Fault}
    (fault : w.window.width s.terminals e.env = .error f) : Escapes s o w f
  | undrawn (e : Planned s o w) {width : Nat} {f : Fault}
    (sized : w.window.width s.terminals e.env = .ok width)
    (fault : Summary.render width (e.plan.summary e.envFile e.mode) = .error f) : Escapes s o w f
  | unsettled (e : Shown s o w) {f : Fault}
    (fault : e.plan.settings.outputFolder.expandHome (s.homeOf e.env) = .error f) : Escapes s o w f
  | unaddressed (e : Shown s o w) {session : Session} {f : Fault}
    (settled : Session.ofSettings (s.homeOf e.env) s.boundary s.codecs e.plan.settings = .ok session)
    (fault : session.client.base = .error f) : Escapes s o w f

/-- The faults that the cycle of a command lets out: what comes of asking a fault that it met for
its description, the user's interrupt excepted. -/
inductive Undescribed (s : Surroundings τ) (o : Options) (w : World τ) : Fault → Prop
  | intro (e : Ready s o w) {f g : Fault} {d : Desk τ}
    (met : Cycle.Met (e.session.services s.transport) e.plan.form e.desk f d)
    (ordinary : f.isInterrupt = false) (mute : f.describe = .error g)
    (uninterrupted : g.isInterrupt = false) : Undescribed s o w g

theorem Undescribed.uninterrupted {s : Surroundings τ} {o : Options} {w : World τ}
    (h : Undescribed s o w f) : f.isInterrupt = false := by
  obtain ⟨-, -, -, -, huninterrupted⟩ := h
  exact huninterrupted

variable {s : Surroundings τ} {o : Options} {w w' : World τ}

/-- The cycle of a command lets a fault out, if that is no interrupt, where it met one that cannot
be described. -/
theorem undescribed_iff (hf : f.isInterrupt = false) :
    (∃ e : Ready s o w, e.cycle.1 = .error f) ↔ Undescribed s o w f := by
  constructor
  · rintro ⟨e, hfault⟩
    obtain ⟨g, d, hmet, hended⟩ :=
      (Session.submit_eq_error (d := e.desk) rfl).mp (Prod.ext hfault rfl)
    rcases Cycle.ended_eq_error.mp hended with ⟨hg, rfl, -⟩ | ⟨hg, hmute, -⟩
    · exact absurd (hf.symm.trans hg) (by simp)
    · exact ⟨e, hmet, hg, hmute, hf⟩
  · rintro ⟨e, met, ordinary, mute, -⟩
    refine ⟨e, ?_⟩
    rw [Ready.cycle, Session.submit, if_pos (show e.desk.opened = true from rfl),
      met.run_eq (Session.services_alwaysShows _ _), Cycle.ended, if_neg (by simp [ordinary]), mute]

/-- A fault comes out of one of the steps, and leaves the desk as it was, or it comes out of the
cycle. -/
theorem Course.escapes (h : Course s o w (.error f, w')) :
    Escapes s o w f ∧ w'.desk = w.desk ∨
      ∃ e : Ready s o w, e.cycle.1 = .error f ∧ f.isInterrupt = false ∧ w' = e.after e.closed := by
  generalize hx : ((Except.error f : Except Fault Nat), w') = x at h
  cases h with
  | unset fault =>
    obtain ⟨huntold, rfl, rfl⟩ := answer_eq_error hx.symm
    exact .inl ⟨.unset fault huntold, rfl⟩
  | unleveled loaded fault =>
    obtain ⟨hf, rfl⟩ := Prod.mk.inj hx
    exact .inl ⟨Except.error.inj hf ▸ .unleveled loaded fault, rfl⟩
  | unplanned e chosen fault =>
    obtain ⟨huntold, rfl, rfl⟩ := answer_eq_error hx.symm
    exact .inl ⟨.unplanned e chosen fault huntold, rfl⟩
  | unsized e fault =>
    obtain ⟨hf, rfl⟩ := Prod.mk.inj hx
    exact .inl ⟨Except.error.inj hf ▸ .unsized e fault, rfl⟩
  | undrawn e sized fault =>
    obtain ⟨hf, rfl⟩ := Prod.mk.inj hx
    exact .inl ⟨Except.error.inj hf ▸ .undrawn e sized fault, rfl⟩
  | unsettled e fault =>
    obtain ⟨hf, rfl⟩ := Prod.mk.inj hx
    exact .inl ⟨Except.error.inj hf ▸ .unsettled e (Session.ofSettings_eq_error fault), rfl⟩
  | unaddressed e settled fault =>
    obtain ⟨hf, rfl⟩ := Prod.mk.inj hx
    exact .inl ⟨Except.error.inj hf ▸ .unaddressed e settled fault, rfl⟩
  | undescribed e fault ordinary =>
    obtain ⟨hf, rfl⟩ := Prod.mk.inj hx
    obtain rfl := Except.error.inj hf
    exact .inr ⟨e, fault, ordinary, rfl⟩
  | manual | interrupted | saved | unsaved => exact absurd hx error_ne_ok

/-- What occurs at one of the steps comes out. -/
theorem Escapes.course (h : Escapes s o w f) :
    ∃ w', Course s o w (.error f, w') ∧ w'.desk = w.desk := by
  cases h with
  | unset fault untold =>
    have hcourse : Course s o w _ := .unset fault
    rw [untold] at hcourse
    exact ⟨_, hcourse, rfl⟩
  | unleveled loaded fault => exact ⟨_, .unleveled loaded fault, rfl⟩
  | unplanned e chosen fault untold =>
    have hcourse : Course s o w _ := .unplanned e chosen fault
    rw [untold] at hcourse
    exact ⟨_, hcourse, rfl⟩
  | unsized e fault => exact ⟨_, .unsized e fault, rfl⟩
  | undrawn e sized fault => exact ⟨_, .undrawn e sized fault, rfl⟩
  | unsettled e fault =>
    refine ⟨_, .unsettled e ?_, rfl⟩
    rw [Session.ofSettings, fault]
    rfl
  | unaddressed e settled fault => exact ⟨_, .unaddressed e settled fault, rfl⟩

/-- **What a command lets out as it gets ready** is of one of a few kinds. -/
theorem Escapes.isUnheld (h : Escapes s o w f) : f.isUnheld = true := by
  cases h with
  | unset fault untold => exact Options.loadVariables_unheld fault untold
  | unleveled loaded fault => exact Logging.setUp_unheld fault
  | unplanned e chosen fault untold => exact Options.plan_unheld fault untold
  | unsized e fault => exact Window.width_unheld fault
  | undrawn e sized fault => exact Summary.render_unheld fault
  | unsettled e fault => exact Path.expandHome_unheld fault
  | unaddressed e settled fault =>
    obtain ⟨g, rfl⟩ := Client.base_eq_error fault
    rfl

/-- A tree with a schema file, and a file of variables that holds these bytes. -/
def schemaAnd (envBytes : Bytes) : Tree :=
  ⟨[(["s.sql".toList], .file 1 []), (["my.env".toList], .file 2 envBytes)], [], 0, 974⟩

/-- A wire over which the user's interrupt comes. -/
def interruptedWire (_ : Request) : Act Unit Response := fun d => (.error (.interrupted none), d)

end Command
end Courier
