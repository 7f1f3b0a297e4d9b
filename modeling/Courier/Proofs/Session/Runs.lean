import Courier.Proofs.Session.Cycles
import Mathlib.Data.List.Forall2
import Mathlib.Data.List.Nodup

/-!
# Runs of a session

However many cycles a session runs one after another, and however they end, the
archives that they save are kept apart: each stands where nothing stood, and no
later cycle touches it. What is saved is the body as it was before it was coded: the
chunks, where the response names no coding, and what they stand for, where it does.

Key definitions: `Turn`, `Session.turns`, `Session.afterAll`, `Save`, `Turn.Kept`.
Key theorems: `Session.turns_kept`, `Session.runs_lose_nothing`, `Session.coded_body_saved_plain`.
-/

namespace Courier

variable {τ : Type}

/-- A cycle in a run: the desk before it and after it. -/
structure Turn (τ : Type) where
  form : Form
  before : Desk (τ × List Response)
  after : Desk (τ × List Response)

/-- What a cycle saved: the response and its body, the path that it told, and where that leads. -/
structure Save where
  response : Response
  body : Bytes
  path : Path
  route : Route

namespace Turn

/-- Did the cycle end by saying that the archive is saved? -/
def succeeds (turn : Turn τ) : Bool := turn.after.message = some Status.downloadStarted

/-- The last response that came in the cycle. -/
def lastResponse? (turn : Turn τ) : Option Response :=
  (turn.after.heard.drop turn.before.heard.length).getLast?

/-- The cycle added one file, and it is the one that was saved. -/
structure Kept (target : Target) (turn : Turn τ) (save : Save) : Prop where
  response : turn.lastResponse? = some save.response
  success : save.response.isSuccess = true
  whole : save.response.failure = none
  arrived : save.response.read = .ok save.body
  lastSaved : turn.after.depot.lastSaved = some save.path
  vacant : turn.before.depot.tree.entry? save.route = none
  route : turn.after.depot.tree.route save.path = .ok save.route
  read : turn.after.depot.tree.read save.path = .ok save.body
  grows : Tree.Grows
    (fun s e => s = save.route ∨ e = .folder ∧ turn.after.depot.tree.OnTheWay target.folder s)
    turn.before.depot.tree turn.after.depot.tree
  added : turn.before.depot.tree.isFolder? target.folder = .ok true →
    ∃ n, Tree.Added save.route (.file n save.body)
      turn.before.depot.tree turn.after.depot.tree

end Turn

namespace Session

/-- The cycles of a run on some forms. However a cycle ends, the next one follows. -/
def turns (session : Session) (transport : Request → Act τ Response) :
    List Form → Desk (τ × List Response) → List (Turn τ)
  | [], _ => []
  | form :: forms, d =>
    let d' := (session.submit (remembering transport) form d).2
    ⟨form, d, d'⟩ :: turns session transport forms d'

/-- The desk after a run. -/
def afterAll (session : Session) (transport : Request → Act τ Response) (forms : List Form)
    (d : Desk τ) : Desk τ := forms.foldl (fun d form => (session.submit transport form d).2) d

variable {session : Session} {d d' : Desk (τ × List Response)}

theorem Saves.kept {p : Path} {r : Response} {body : Bytes} (h : session.Saves p r body d d')
    (form : Form) : ∃ route, Turn.Kept session.target ⟨form, d, d'⟩ ⟨r, body, p, route⟩ := by
  obtain ⟨earlier, hearlier⟩ := h.heard
  obtain ⟨name, -, hdelivers⟩ := h.delivers
  obtain ⟨route, hroute, hnone, hgrows, hadded⟩ := hdelivers.grows
  refine ⟨route, ?_, h.success, (Response.read_eq_ok.mp h.read).2, h.read, hdelivers.lastSaved,
    hnone, hroute, hdelivers.read, hgrows, hadded⟩
  unfold Turn.lastResponse?
  simp [hearlier, List.append_assoc]

/-- What a run from one desk to another did to the archives, given its cycles and what
those saved. -/
structure Keeps (session : Session) (turns : List (Turn τ)) (saves : List Save)
    (d d' : Desk (τ × List Response)) : Prop where
  kept : List.Forall₂ (Turn.Kept session.target) (turns.filter Turn.succeeds) saves
  arrived : ∀ save ∈ saves, save.response.read = .ok save.body
  apart : (saves.map Save.route).Nodup
  vacant : ∀ save ∈ saves, d.depot.tree.entry? save.route = none
  route : ∀ save ∈ saves, d'.depot.tree.route save.path = .ok save.route
  read : ∀ save ∈ saves, d'.depot.tree.read save.path = .ok save.body
  grows : Tree.Grows
    (fun s e => s ∈ saves.map Save.route ∨
      e = .folder ∧ d'.depot.tree.OnTheWay session.target.folder s)
    d.depot.tree d'.depot.tree
  others : ∀ turn ∈ turns, turn.succeeds = false →
    Tree.GrowsTowards session.target.folder turn.before.depot.tree turn.after.depot.tree
  lastSaved : d'.depot.lastSaved = (saves.getLast?.map Save.path).or d.depot.lastSaved

variable {turn : Turn τ} {turns : List (Turn τ)} {save : Save} {saves : List Save}

/-- The file of a cycle stands where none of the later cycles found anything. -/
theorem Keeps.apart_from (h : session.Keeps turns saves turn.after d')
    (hkept : turn.Kept session.target save) : save.route ∉ saves.map Save.route := by
  intro hmem
  obtain ⟨later, hlater, hsame⟩ := List.mem_map.mp hmem
  obtain ⟨-, r, n, hroute, hentry⟩ := Tree.read_eq_ok.mp hkept.read
  obtain rfl : save.route = r := Except.ok.inj (hkept.route.symm.trans hroute)
  have hnone := h.vacant later hlater
  rw [hsame, hentry] at hnone
  exact absurd hnone (by simp)

/-- Where the paths lead apart, they are apart. -/
theorem Keeps.paths_apart (h : session.Keeps turns saves d d') : (saves.map Save.path).Nodup := by
  have hroutes : (saves.map Save.path).map d'.depot.tree.route = (saves.map Save.route).map .ok := by
    rw [List.map_map, List.map_map]
    exact List.map_congr_left h.route
  refine List.Nodup.of_map d'.depot.tree.route ?_
  rw [hroutes]
  exact h.apart.map fun r s hrs => Except.ok.inj hrs

/-- A cycle that saves, before a run. -/
theorem Keeps.cons_kept (h : session.Keeps turns saves turn.after d')
    (hsucceeds : turn.succeeds = true) (hkept : turn.Kept session.target save) :
    session.Keeps (turn :: turns) (save :: saves) turn.before d' := by
  have hlater := h.grows.toKeptIn
  have hearlier := hkept.grows.toKeptIn
  refine ⟨?_, ?_, ?_, ?_, ?_, ?_, ?_, ?_, ?_⟩
  · rw [List.filter_cons_of_pos hsucceeds]
    exact .cons hkept h.kept
  · exact List.forall_mem_cons.mpr ⟨hkept.arrived, h.arrived⟩
  · exact List.nodup_cons.mpr ⟨h.apart_from hkept, h.apart⟩
  · exact List.forall_mem_cons.mpr
      ⟨hkept.vacant, fun later hm => hearlier.entry?_none (h.vacant later hm)⟩
  · exact List.forall_mem_cons.mpr ⟨hlater.route hkept.route, h.route⟩
  · exact List.forall_mem_cons.mpr ⟨hlater.read hkept.read, h.read⟩
  · refine (hkept.grows.mono ?_).trans (h.grows.mono ?_)
    · rintro s e (rfl | ⟨he, hs⟩)
      · exact Or.inl List.mem_cons_self
      · exact Or.inr ⟨he, hs.mono hlater⟩
    · rintro s e (hs | hs)
      · exact Or.inl (List.mem_cons_of_mem _ hs)
      · exact Or.inr hs
  · refine List.forall_mem_cons.mpr ⟨fun hfails => ?_, h.others⟩
    rw [hsucceeds] at hfails
    exact absurd hfails (by simp)
  · rw [h.lastSaved, hkept.lastSaved, List.getLast?_cons]
    cases saves.getLast? <;> rfl

/-- A cycle that saves nothing, before a run. -/
theorem Keeps.cons_passed (h : session.Keeps turns saves turn.after d')
    (hfails : turn.succeeds = false)
    (hdeclines : session.target.Declines turn.before.depot turn.after.depot) :
    session.Keeps (turn :: turns) saves turn.before d' := by
  have hlater := h.grows.toKeptIn
  have hearlier := hdeclines.grows.toKeptIn
  refine ⟨?_, h.arrived, h.apart, ?_, h.route, h.read, ?_, ?_, ?_⟩
  · rw [List.filter_cons_of_neg (by rw [hfails]; simp)]
    exact h.kept
  · exact fun later hm => hearlier.entry?_none (h.vacant later hm)
  · refine Tree.Grows.trans (hdeclines.grows.mono ?_) h.grows
    exact fun s e ⟨he, hs⟩ => Or.inr ⟨he, hs.mono hlater⟩
  · exact List.forall_mem_cons.mpr ⟨fun _ => hdeclines.grows, h.others⟩
  · rw [h.lastSaved, hdeclines.lastSaved]

/-- A wire that remembers does not change a run. -/
theorem afterAll_forget (session : Session) (transport : Request → Act τ Response) :
    ∀ (forms : List Form) (d : Desk (τ × List Response)),
      (session.afterAll (remembering transport) forms d).forget =
        session.afterAll transport forms d.forget
  | [], _ => rfl
  | form :: forms, d => by
    have hfirst : (session.submit transport form d.forget).2 =
        (session.submit (remembering transport) form d).2.forget := by rw [submit_forget]; rfl
    rw [afterAll, afterAll, List.foldl_cons, List.foldl_cons, hfirst]
    exact afterAll_forget session transport forms _

/-- **A run keeps what its cycles save.** The induction is on the forms: what the
first cycle saved stands while the others follow, and so none of them can save there. -/
theorem turns_kept (hfolder : session.target.folder.Proper) (transport : Request → Act τ Response) :
    ∀ (forms : List Form) (d : Desk (τ × List Response)), d.opened = true →
      ∃ saves, session.Keeps (session.turns transport forms d) saves d
        (session.afterAll (remembering transport) forms d)
  | [], d, _ => by
    refine ⟨[], List.Forall₂.nil, ?_, List.nodup_nil, ?_, ?_, ?_, Tree.Grows.refl _, ?_, rfl⟩ <;>
      simp [Session.turns]
  | form :: forms, d, hopened => by
    obtain ⟨d₁, hd₁, hopened₁, -, hcases⟩ := submit_cases hfolder hopened transport form
    obtain ⟨saves, hrest⟩ := turns_kept hfolder transport forms d₁ hopened₁
    have hturns : session.turns transport (form :: forms) d =
        ⟨form, d, d₁⟩ :: session.turns transport forms d₁ := by rw [Session.turns, hd₁]
    have hafter : session.afterAll (remembering transport) (form :: forms) d =
        session.afterAll (remembering transport) forms d₁ := by
      rw [afterAll, List.foldl_cons, hd₁]
      rfl
    rw [hturns, hafter]
    rcases hcases with ⟨p, r, body, hsaves⟩ | hpasses
    · obtain ⟨route, hkept⟩ := hsaves.kept form
      exact ⟨_, hrest.cons_kept (decide_eq_true hsaves.message) hkept⟩
    · exact ⟨_, hrest.cons_passed (decide_eq_false hpasses.message)
        hpasses.declines⟩

/-- **A run loses nothing and mixes up nothing.** After any number of cycles, however
they end, the tree has what it had, folders on the way to the output folder, and one
more file for each cycle that says so: all of them apart, where nothing stood before,
each with the whole body of the last response of its cycle, which was a success: its
chunks one after another, or what they stand for if it names codings. The other cycles
leave all files alone, and the latest archive is the one of the latest cycle that says
so. That the wire remembers its responses changes nothing. -/
theorem runs_lose_nothing {homeOf : Text → Option Text} {boundary outputFolder : Text}
    {codecs : Codecs} {settings : Settings}
    (hsession : Session.ofSettings homeOf boundary codecs
      { settings with outputFolder := .ofText outputFolder } = .ok session)
    {tree : Tree} {wire : τ} (hentered : session.enter (Desk.start tree (wire, [])) = (.ok (), d))
    (transport : Request → Act τ Response) (forms : List Form) :
    ∃ (d' : Desk (τ × List Response)) (saves : List Save),
      session.afterAll (remembering transport) forms d = d' ∧
      session.afterAll transport forms d.forget = d'.forget ∧
      List.Forall₂ (Turn.Kept session.target)
        ((session.turns transport forms d).filter Turn.succeeds) saves ∧
      (saves.map Save.path).Nodup ∧ (saves.map Save.route).Nodup ∧
      (∀ save ∈ saves, tree.Vacant save.path ∧ tree.entry? save.route = none ∧
        d'.depot.tree.route save.path = .ok save.route ∧
        d'.depot.tree.read save.path = .ok save.body ∧ save.response.read = .ok save.body ∧
        (save.response.headers.codings = [] → save.body = save.response.chunks.flatten)) ∧
      Tree.Grows
        (fun s e => s ∈ saves.map Save.route ∨
          e = .folder ∧ d'.depot.tree.OnTheWay session.target.folder s)
        tree d'.depot.tree ∧
      (∀ turn ∈ session.turns transport forms d, turn.succeeds = false →
        Tree.GrowsTowards session.target.folder turn.before.depot.tree turn.after.depot.tree) ∧
      d'.depot.lastSaved = saves.getLast?.map Save.path := by
  obtain ⟨hopened, hdepot, -⟩ := enter_eq_ok hentered
  obtain ⟨saves, h⟩ := turns_kept (ofSettings_proper hsession) transport forms d hopened
  have hkept := h.grows.toKeptIn
  have hvacant := h.vacant
  have hgrows := h.grows
  have hlast := h.lastSaved
  rw [hdepot] at hkept hvacant hgrows hlast
  refine ⟨_, saves, rfl, (afterAll_forget session transport forms d).symm, h.kept, h.paths_apart,
    h.apart, fun save hsave => ?_, hgrows, h.others, ?_⟩
  · have harrived := h.arrived save hsave
    refine ⟨fun r hr => ?_, hvacant save hsave, h.route save hsave, h.read save hsave, harrived,
      fun huncoded => ((Response.read_uncoded huncoded).mp harrived).2⟩
    obtain rfl := Except.ok.inj ((hkept.route hr).symm.trans (h.route save hsave))
    exact hvacant save hsave
  · rw [hlast]
    exact Option.or_none

/-- A wire over which a list of outcomes comes, and then the user's interrupt. -/
def scripted (_ : Request) : Act (List (Except Fault Response)) Response
  | [] => (.error (.interrupted none), [])
  | out :: rest => (out, rest)

/-- A response with an archive and a Content-Disposition value. -/
def zipResponse (disposition : Text) (body : Bytes) : Response where
  status := 200
  reason := none
  headers := [⟨Utf8.encode "Content-Disposition".toList, Utf8.encode disposition⟩]
  chunks := [body]
  failure := none
  closing := none

/-- A session that saves in a folder called "out". -/
def outSession : Session where
  client := ⟨Settings.default.baseUrl, Settings.default.endpoint, "b".toList⟩
  target := ⟨⟨0, ["out".toList]⟩, Settings.default.fallbackName⟩
  fallbackName := Settings.default.fallbackName
  codecs := .none

/-- An empty tree and a scripted wire, when the session was opened. -/
def outDesk (script : List (Except Fault Response)) :
    Desk (List (Except Fault Response) × List Response) :=
  (outSession.enter (Desk.start ⟨[], [], 0, 974⟩ (script, []))).2

/-- Two archives of one name. -/
def twins : List (Except Fault Response) :=
  [.ok (zipResponse "attachment; filename=a.zip".toList [1]),
    .ok (zipResponse "attachment; filename=a.zip".toList [2])]

/-- Two archives of one name, with a lack between them and an interrupt behind them. -/
theorem twins_kept_apart :
    Session.ofSettings (fun _ => none) "b".toList .none
      { Settings.default with outputFolder := .ofText "out".toList } = .ok outSession ∧
    outSession.enter (Desk.start ⟨[], [], 0, 974⟩ (twins, [])) = (.ok (), outDesk twins) ∧
    ∃ saves : List Save, saves.length = 2 ∧ (saves.map Save.path).Nodup ∧
      ∀ save ∈ saves, save.response.read = .ok save.body ∧
        (outSession.afterAll (remembering scripted)
          [.shop, ⟨none, none, none⟩, .shop, .shop] (outDesk twins)).depot.tree.read save.path =
            .ok save.body := by
  have hsession : Session.ofSettings (fun _ => none) "b".toList .none
      { Settings.default with outputFolder := .ofText "out".toList } = .ok outSession := rfl
  have hentered : outSession.enter (Desk.start ⟨[], [], 0, 974⟩ (twins, [])) = (.ok (), outDesk twins) := rfl
  refine ⟨hsession, hentered, ?_⟩
  obtain ⟨d', saves, rfl, -, hkept, hapart, -, hsaves, -⟩ :=
    runs_lose_nothing hsession hentered scripted [.shop, ⟨none, none, none⟩, .shop, .shop]
  refine ⟨saves, ?_, hapart, fun save hsave => ?_⟩
  · rw [← hkept.length_eq]
    decide +kernel
  · obtain ⟨-, -, -, hread, harrived, -⟩ := hsaves save hsave
    exact ⟨harrived, hread⟩

/-- The bytes of "PK" in the coding gzip: a header, one block that holds them as they are, their
sum and their number. -/
def zippedPk : Bytes :=
  [0x1f, 0x8b, 8, 0, 0, 0, 0, 0, 4, 3] ++ [1, 2, 0, 0xfd, 0xff, 0x50, 0x4b] ++
    [0xb3, 0xd7, 0x6c, 0x1a] ++ [2, 0, 0, 0]

/-- A response that tells that its body is coded. -/
def codedResponse : Response where
  status := 200
  reason := none
  headers := [⟨Utf8.encode "Content-Encoding".toList, Utf8.encode "gzip".toList⟩]
  chunks := [zippedPk]
  failure := none
  closing := none

/-- The desk after one cycle that is answered with a coded body. -/
def codedDesk : Desk (List (Except Fault Response) × List Response) :=
  (outSession.submit (remembering scripted) .shop (outDesk [.ok codedResponse])).2

/-- A cycle whose response names a coding saves what its body stands for: what its chunks
hold is in no file. -/
theorem coded_body_saved_plain :
    codedDesk.message = some Status.downloadStarted ∧
    codedDesk.heard.map Response.chunks = [codedResponse.chunks] ∧
    codedResponse.isSuccess = true ∧ codedResponse.failure = none ∧
    codedDesk.depot.tree.entries.map Prod.snd = [.file 1 (Utf8.encode "PK".toList), .folder] ∧
    ∀ e ∈ codedDesk.depot.tree.entries, ∀ n, e.2 ≠ .file n codedResponse.chunks.flatten := by
  have hentries : codedDesk.depot.tree.entries.map Prod.snd =
      [.file 1 (Utf8.encode "PK".toList), .folder] := by decide +kernel
  refine ⟨by decide +kernel, by decide +kernel, rfl, rfl, hentries, fun e he n heq => ?_⟩
  have hmem : Entry.file n codedResponse.chunks.flatten ∈ codedDesk.depot.tree.entries.map Prod.snd :=
    heq ▸ List.mem_map_of_mem he
  have hbody : codedResponse.chunks.flatten ≠ Utf8.encode "PK".toList := by decide +kernel
  rw [hentries, List.mem_cons, List.mem_singleton] at hmem
  rcases hmem with hfile | hfolder
  · exact hbody (Entry.file.inj hfile).2
  · exact absurd hfolder (by simp)

end Session
end Courier
