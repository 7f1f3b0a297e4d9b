import Courier.Proofs.Command.Arguments
import Courier.Proofs.Command.Course
import Courier.Proofs.Settings.EnvFile

/-!
# Where the settings of a command come from

A setting is settled by the first of its sources that speaks: the option of the
command, the variable of the environment, the first line of the file of variables
that sets it, the default. A variable that stands in the environment is settled
there, also where it is empty, and the file counts for nothing then.

Key definitions: `EnvFile.assignments`, `Options.Lists`, `Settings.Settles`.
Key theorems: `Options.loadVariables_lists`, `Settings.Settles.of_lookup`,
`Command.settings_by_precedence`.
-/

namespace Courier

/-! ### What stands in a part of a text stands in the text -/

namespace Text

variable {c sep : Char}

theorem mem_of_mem_linesFrom {sofar t line : Text} (hline : line ∈ linesFrom sofar t)
    (hc : c ∈ line) : c ∈ sofar ∨ c ∈ t := by
  fun_induction linesFrom sofar t with
  | case1 => exact absurd hline List.not_mem_nil
  | case2 sofar hne =>
    rw [List.mem_singleton] at hline
    exact .inl (List.mem_reverse.mp (hline ▸ hc))
  | case3 sofar cs ih =>
    rcases List.mem_cons.mp hline with rfl | hline
    · exact .inl (List.mem_reverse.mp hc)
    · have := ih hline
      simp_all
  | case4 sofar d cs _ hbreak ih =>
    rcases List.mem_cons.mp hline with rfl | hline
    · exact .inl (List.mem_reverse.mp hc)
    · have := ih hline
      simp_all
  | case5 sofar d cs _ hbreak ih =>
    have := ih hline
    simp only [List.mem_cons] at this ⊢
    tauto

theorem mem_of_mem_lines {t line : Text} (hline : line ∈ lines t) (hc : c ∈ line) : c ∈ t :=
  (mem_of_mem_linesFrom hline hc).resolve_left List.not_mem_nil

theorem eq_of_cut {before after : Text} : ∀ {t : Text}, cut sep t = some (before, after) →
    t = before ++ sep :: after
  | [], h => absurd h (by simp [cut])
  | c :: t, h => by
    rw [cut] at h
    by_cases hc : c = sep
    · rw [if_pos hc] at h
      obtain ⟨rfl, rfl⟩ := Prod.mk.inj (Option.some.inj h)
      rw [hc, List.nil_append]
    · rw [if_neg hc] at h
      obtain ⟨⟨b, a⟩, hcut, heq⟩ := Option.map_eq_some_iff.mp h
      obtain ⟨rfl, rfl⟩ := Prod.mk.inj heq
      rw [eq_of_cut hcut]
      rfl

end Text

namespace EnvFile

variable {c : Char} {line key value text : Text}

theorem mem_of_mem_stripQuotes {t : Text} (h : c ∈ stripQuotes t) : c ∈ t := by
  unfold stripQuotes at h
  split at h
  · split at h
    · exact List.mem_cons_of_mem _ (List.dropLast_subset _ h)
    · exact h
  · exact h

theorem mem_of_mem_dropExport (h : c ∈ dropExport line) : c ∈ line := by
  unfold dropExport at h
  split at h
  · rename_i rest hrest
    rw [Text.dropLead?_eq_some.mp hrest]
    exact List.mem_append_right _ (Text.mem_of_mem_trim h)
  · exact h

/-- The name and the value that a line sets are parts of the line. -/
theorem mem_of_assignment? (h : assignment? line = some (key, value)) :
    (∀ c ∈ key, c ∈ line) ∧ ∀ c ∈ value, c ∈ line := by
  unfold assignment? at h
  dsimp only at h
  split at h
  · exact absurd h (by simp)
  · obtain ⟨⟨before, after⟩, hcut, h⟩ := Option.bind_eq_some_iff.mp h
    dsimp only at h
    split at h
    · exact absurd h (by simp)
    · obtain ⟨rfl, rfl⟩ := Prod.mk.inj (Option.some.inj h)
      have hparts : ∀ c, c ∈ before ∨ c ∈ after → c ∈ line := by
        intro c hc
        refine Text.mem_of_mem_trim (mem_of_mem_dropExport (c := c) ?_)
        rw [Text.eq_of_cut hcut, List.mem_append, List.mem_cons]
        tauto
      exact ⟨fun c hc => hparts c (.inl (Text.mem_of_mem_trim hc)),
        fun c hc => hparts c (.inr (Text.mem_of_mem_trim (mem_of_mem_stripQuotes hc)))⟩

/-- The variables that the text of a file sets, line by line. -/
def assignments (text : Text) : List (Text × Text) := (Text.lines text).filterMap assignment?

/-- A text without the null character can be set to its end. -/
theorem settable_assignments (h : '\x00' ∉ text) : Settable (assignments text) := by
  intro pair hpair
  obtain ⟨line, hline, hset⟩ := List.mem_filterMap.mp hpair
  obtain ⟨hkey, hvalue⟩ := mem_of_assignment? hset
  exact ⟨fun hmem => h (Text.mem_of_mem_lines hline (hkey _ hmem)),
    fun hmem => h (Text.mem_of_mem_lines hline (hvalue _ hmem))⟩

end EnvFile

/-! ### One chain for every setting -/

namespace Settings

variable {α : Type} {env env' : Environment} {listed : List (Text × Text)} {variable_ : Text}
  {read : Text → Option α} {default : α} {flag found : Option α}

/-- How a setting is settled that has an option, a variable and a default. The variable has a text
in the environment or else in the list of what the file sets, and `read` says which setting a
text means. -/
inductive Settles (env : Environment) (listed : List (Text × Text)) (variable_ : Text)
    (read : Text → Option α) (default : α) : (flag : Option α) → α → Prop
  | told (a : α) : Settles env listed variable_ read default (some a) a
  | standing {text : Text} {a : α} (hset : env.lookup variable_ = some text) (hne : text ≠ [])
    (hread : read text = some a) : Settles env listed variable_ read default none a
  | standingEmpty (hset : env.lookup variable_ = some []) :
    Settles env listed variable_ read default none default
  | listed {text : Text} {a : α} (hunset : env.lookup variable_ = none)
    (hfirst : listed.lookup variable_ = some text) (hne : text ≠ []) (hread : read text = some a) :
    Settles env listed variable_ read default none a
  | listedEmpty (hunset : env.lookup variable_ = none) (hfirst : listed.lookup variable_ = some []) :
    Settles env listed variable_ read default none default
  | unset (hunset : env.lookup variable_ = none) (hunlisted : listed.lookup variable_ = none) :
    Settles env listed variable_ read default none default

theorem filled?_cases (env : Environment) (variable_ : Text) :
    (env.lookup variable_ = none ∧ filled? env variable_ = none) ∨
      (env.lookup variable_ = some [] ∧ filled? env variable_ = none) ∨
      ∃ text, text ≠ [] ∧ env.lookup variable_ = some text ∧ filled? env variable_ = some text := by
  unfold filled?
  cases env.lookup variable_ with
  | none => exact .inl ⟨rfl, rfl⟩
  | some text =>
    cases text with
    | nil => exact .inr (.inl ⟨rfl, rfl⟩)
    | cons c cs => exact .inr (.inr ⟨c :: cs, List.cons_ne_nil _ _, rfl, rfl⟩)

/-- **An option that is not given leaves a setting to its variable, and that to its default.** The
variable is looked up where the environment was filled up from the file. -/
theorem Settles.of_lookup
    (hlookup : env'.lookup variable_ = (env.lookup variable_).or (listed.lookup variable_))
    (hfilled : ∀ text, filled? env' variable_ = some text → ∃ a, read text = some a ∧ found = some a)
    (hunfilled : filled? env' variable_ = none → found = none) :
    Settles env listed variable_ read default flag ((flag.or found).getD default) := by
  cases flag with
  | some a => exact .told a
  | none =>
    rw [Option.none_or]
    cases hset : env.lookup variable_ with
    | some text =>
      rw [hset, Option.some_or] at hlookup
      rcases filled?_cases env' variable_ with ⟨h, -⟩ | ⟨h, hnone⟩ | ⟨text', hne, h, hsome⟩
      · exact absurd (hlookup.symm.trans h) (by simp)
      · obtain rfl := Option.some.inj (hlookup.symm.trans h)
        rw [hunfilled hnone]
        exact .standingEmpty hset
      · obtain rfl := Option.some.inj (hlookup.symm.trans h)
        obtain ⟨a, hread, hfound⟩ := hfilled text hsome
        rw [hfound]
        exact .standing hset hne hread
    | none =>
      rw [hset, Option.none_or] at hlookup
      rcases filled?_cases env' variable_ with ⟨h, hnone⟩ | ⟨h, hnone⟩ | ⟨text, hne, h, hsome⟩
      · rw [hunfilled hnone]
        exact .unset hset (hlookup.symm.trans h)
      · rw [hunfilled hnone]
        exact .listedEmpty hset (hlookup.symm.trans h)
      · obtain ⟨a, hread, hfound⟩ := hfilled text hsome
        rw [hfound]
        exact .listed hset (hlookup.symm.trans h) hne hread

end Settings

/-! ### The file of variables -/

namespace Options

variable {o : Options} {t : Tree} {listed : List (Text × Text)}

/-- What the file of variables sets, which the options name or which stands where it is looked
for: it can be read, it is UTF-8 and holds no null character. Where there is no such file,
nothing is set. -/
inductive Lists (o : Options) (t : Tree) : List (Text × Text) → Prop
  | nothing (hnone : o.variableFile? t = .ok .none) : Lists o t []
  | file {p : Path} {bytes : Bytes} {text : Text} (hfile : o.variableFile? t = .ok (some p))
    (hread : t.read p = .ok bytes) (hdecode : Utf8.decode bytes = .ok text)
    (hnull : '\x00' ∉ text) : Lists o t (EnvFile.assignments text)

/-- **The file fills the environment up:** what stands there stays, and what does not stand gets its
first value in the file. -/
theorem loadVariables_lists (h : o.Lists t listed) (env : Environment) : ∃ envFile env',
    o.loadVariables t env = (.ok envFile, env') ∧
      ∀ k, env'.lookup k = (env.lookup k).or (listed.lookup k) := by
  cases h with
  | nothing hnone =>
    refine ⟨.none, env, ?_, fun k => by rw [List.lookup_nil, Option.or_none]⟩
    rw [loadVariables, hnone]
  | @file p bytes text hfile hread hdecode hnull =>
    obtain ⟨env', hassign, hlookup⟩ :=
      EnvFile.assign_keeping env (EnvFile.settable_assignments hnull)
    have hload : EnvFile.load t p false env = (.ok (), env') := by
      rw [EnvFile.load_of_decode hread hdecode]
      exact hassign
    refine ⟨some p, env', ?_, hlookup⟩
    rw [loadVariables, hfile]
    dsimp only
    rw [hload]

end Options

namespace Settings

variable {env env' : Environment} {o : Options} {listed : List (Text × Text)}
  {settings : Settings}

theorem environmentTimeout_eq_ok {timeout : Option Float}
    (h : environmentTimeout env = .ok timeout) :
    (filled? env timeoutVariable = none ∧ timeout = none) ∨
      ∃ raw x, filled? env timeoutVariable = some raw ∧ Decimal.readFloat? raw = some x ∧
        timeout = some x := by
  unfold environmentTimeout at h
  cases hraw : filled? env timeoutVariable with
  | none =>
    rw [hraw] at h
    exact .inl ⟨rfl, (Except.ok.inj h).symm⟩
  | some raw =>
    rw [hraw] at h
    dsimp only at h
    cases hx : Decimal.readFloat? raw with
    | none =>
      rw [hx] at h
      exact absurd h (by simp)
    | some x =>
      rw [hx] at h
      exact .inr ⟨raw, x, rfl, hx, (Except.ok.inj h).symm⟩

/-- Where no timeout is to be read, there are settings. -/
theorem exists_settings (h : env.lookup timeoutVariable = none) :
    ∃ settings, o.settings env = .ok settings := by
  have htimeout : environmentTimeout env = .ok none := by
    rw [environmentTimeout, filled?, h]
  unfold Options.settings fromEnvironment
  rw [htimeout]
  exact ⟨_, rfl⟩

/-- The settings of a command, once there are any, come by the chain. -/
theorem settles_of_settings (hlookup : ∀ k, env'.lookup k = (env.lookup k).or (listed.lookup k))
    (h : o.settings env' = .ok settings) :
    Settles env listed baseUrlVariable some default.baseUrl o.address settings.baseUrl ∧
      Settles env listed outputFolderVariable (fun text => some (.ofText text)) default.outputFolder
        o.outputFolder settings.outputFolder ∧
      Settles env listed timeoutVariable (fun text => (Decimal.readFloat? text).map some)
        default.timeout (o.timeout.map some) settings.timeout ∧
      settings.endpoint = default.endpoint ∧ settings.fallbackName = default.fallbackName := by
  unfold Options.settings fromEnvironment at h
  cases htimeout : environmentTimeout env' with
  | error f =>
    rw [htimeout] at h
    exact absurd h (by simp)
  | ok timeout =>
    rw [htimeout] at h
    obtain rfl := Except.ok.inj h
    refine ⟨.of_lookup (hlookup _) (fun text htext => ⟨text, rfl, htext⟩) id,
      .of_lookup (hlookup _) (fun text htext => ⟨_, rfl, congrArg (Option.map Path.ofText) htext⟩)
        (congrArg (Option.map Path.ofText)), ?_, rfl, rfl⟩
    have hor : o.timeout.or timeout = ((o.timeout.map some).or (timeout.map some)).getD none := by
      cases o.timeout <;> cases timeout <;> rfl
    change Settles env listed timeoutVariable _ none _ (o.timeout.or timeout)
    rw [hor]
    rcases environmentTimeout_eq_ok htimeout with ⟨hraw, rfl⟩ | ⟨raw, x, hraw, hx, rfl⟩
    · exact .of_lookup (hlookup _) (fun text htext => absurd (hraw.symm.trans htext) (by simp))
        fun _ => rfl
    · refine .of_lookup (hlookup _) (fun text htext => ?_)
        fun hnone => absurd (hraw.symm.trans hnone) (by simp)
      obtain rfl := Option.some.inj (hraw.symm.trans htext)
      exact ⟨some x, by rw [hx]; rfl, rfl⟩

end Settings

namespace Command

variable {τ : Type}

/-- **The settings of a command come by one chain of precedence.** With a file of variables that can
be read, or with none, the variables can be loaded; and once the options and the environment
give settings, the address, the output folder and the timeout are each settled by the option,
else by the variable in the environment, else by the first line of the file that sets it, else
by the default. The endpoint and the name for an archive without one are the defaults. These
are the settings of every plan that the command makes. -/
theorem settings_by_precedence (s : Surroundings τ) {o : Options} {w : World τ}
    {listed : List (Text × Text)} (hlists : o.Lists w.tree listed) : ∃ envFile env',
      o.loadVariables w.tree w.environment = (.ok envFile, env') ∧
      (∀ k, env'.lookup k = (w.environment.lookup k).or (listed.lookup k)) ∧
      (∀ settings, o.settings env' = .ok settings →
        Settings.Settles w.environment listed Settings.baseUrlVariable some
          Settings.default.baseUrl o.address settings.baseUrl ∧
        Settings.Settles w.environment listed Settings.outputFolderVariable
          (fun text => some (.ofText text)) Settings.default.outputFolder o.outputFolder
          settings.outputFolder ∧
        Settings.Settles w.environment listed Settings.timeoutVariable
          (fun text => (Decimal.readFloat? text).map some) Settings.default.timeout
          (o.timeout.map some) settings.timeout ∧
        settings.endpoint = Settings.default.endpoint ∧
        settings.fallbackName = Settings.default.fallbackName) ∧
      ∀ e : Planned s o w, o.settings env' = .ok e.plan.settings := by
  obtain ⟨envFile, env', hload, hlookup⟩ := Options.loadVariables_lists hlists w.environment
  refine ⟨envFile, env', hload, hlookup, fun settings h => Settings.settles_of_settings hlookup h,
    fun e => ?_⟩
  have henv : e.env = env' := congrArg Prod.snd (e.loaded.symm.trans hload)
  rw [← henv]
  exact (Options.plan_eq_ok e.planned).2.2.1

/-- A file that names an address and an output folder, in the place where it is looked for. -/
def listing : Tree := ⟨[([".env".toList], .file 1 (Utf8.encode
  "CRUD_UPLOADER_API_URL=http://a\nCRUD_UPLOADER_OUTPUT_DIR=b\nCRUD_UPLOADER_OUTPUT_DIR=c".toList))],
  [], 0, 974⟩

/-- What that file sets. -/
def listingSets : List (Text × Text) :=
  [(Settings.baseUrlVariable, "http://a".toList), (Settings.outputFolderVariable, "b".toList),
    (Settings.outputFolderVariable, "c".toList)]

theorem lists_listing {o : Options} (h : o.envFile = none) : o.Lists listing listingSets := by
  have hfile : o.variableFile? listing = .ok (some EnvFile.standardPath) := by
    rw [Options.variableFile?, h]
    rfl
  have hread : listing.read EnvFile.standardPath = .ok (Utf8.encode
      "CRUD_UPLOADER_API_URL=http://a\nCRUD_UPLOADER_OUTPUT_DIR=b\nCRUD_UPLOADER_OUTPUT_DIR=c".toList) :=
    Tree.read_eq_ok.mpr ⟨by decide +kernel, [".env".toList], 1, by decide +kernel, rfl⟩
  have hsets : EnvFile.assignments
      "CRUD_UPLOADER_API_URL=http://a\nCRUD_UPLOADER_OUTPUT_DIR=b\nCRUD_UPLOADER_OUTPUT_DIR=c".toList =
        listingSets := by
    decide +kernel
  rw [← hsets]
  exact .file hfile hread (Utf8.decode_encode _) (by decide +kernel)

/-- A schema file and an empty address. -/
def emptyAddress : Options :=
  { Options.none with schema := some (.ofText "s.sql".toList), address := some [] }

/-- An address that is told empty stays empty. A variable that stands empty hides the file, and of
two lines for one that does not stand the first counts. -/
theorem empty_texts_settle :
    Arguments.parse ["s.sql".toList, "--api-url".toList, []] = .ok emptyAddress ∧
    emptyAddress.Lists listing listingSets ∧
    (∃ envFile env' settings,
      emptyAddress.loadVariables listing [(Settings.outputFolderVariable, [])] = (.ok envFile, env') ∧
      emptyAddress.settings env' = .ok settings ∧ settings.baseUrl = [] ∧
      settings.outputFolder = Settings.default.outputFolder) ∧
    ∃ envFile env' settings, emptyAddress.loadVariables listing [] = (.ok envFile, env') ∧
      emptyAddress.settings env' = .ok settings ∧ settings.outputFolder = .ofText "b".toList := by
  have hlists : emptyAddress.Lists listing listingSets := lists_listing rfl
  refine ⟨rfl, hlists, ?_, ?_⟩
  · obtain ⟨envFile, env', hload, hlookup, hsettles, -⟩ := settings_by_precedence
      (plain fun (_ : Request) (w : Unit) => (.error .clientClosed, w))
      (w := World.start listing [(Settings.outputFolderVariable, [])] wide ()) hlists
    obtain ⟨settings, hsettings⟩ := Settings.exists_settings (o := emptyAddress)
      ((hlookup Settings.timeoutVariable).trans (by decide))
    obtain ⟨haddress, hfolder, -⟩ := hsettles settings hsettings
    refine ⟨envFile, env', settings, hload, hsettings, ?_, ?_⟩
    · generalize settings.baseUrl = address at haddress ⊢
      cases haddress
      rfl
    · generalize settings.outputFolder = folder at hfolder ⊢
      cases hfolder with
      | standingEmpty => rfl
      | standing hset hne => exact absurd (Option.some.inj hset).symm hne
      | listed hunset | listedEmpty hunset | unset hunset => exact absurd hunset (by decide)
  · obtain ⟨envFile, env', hload, hlookup, hsettles, -⟩ := settings_by_precedence
      (plain fun (_ : Request) (w : Unit) => (.error .clientClosed, w))
      (w := World.start listing [] wide ()) hlists
    obtain ⟨settings, hsettings⟩ := Settings.exists_settings (o := emptyAddress)
      ((hlookup Settings.timeoutVariable).trans (by decide))
    obtain ⟨-, hfolder, -⟩ := hsettles settings hsettings
    refine ⟨envFile, env', settings, hload, hsettings, ?_⟩
    generalize settings.outputFolder = folder at hfolder ⊢
    cases hfolder with
    | standing hset => exact nomatch hset
    | standingEmpty hset => exact absurd hset (by decide)
    | listed hunset hfirst hne hread =>
      obtain rfl := Option.some.inj hfirst
      exact (Option.some.inj hread).symm
    | listedEmpty hunset hfirst => exact absurd hfirst (by decide)
    | unset hunset hunlisted => exact absurd hunlisted (by decide)

end Command
end Courier
