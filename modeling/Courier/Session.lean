import Courier.Cycle
import Courier.Form.Chosen
import Courier.Http.Client
import Courier.Settings
import Courier.Status.Board

/-!
# Sessions

A session runs submit cycles with the library's own services: status texts are
kept and recorded, payloads are posted by a client over a wire, and archives
are saved in a folder of the file tree. Requests can be sent only while the
session is open; a session that was never opened runs no cycle at all.

Key definitions: `Desk`, `Session`, `Session.enter`, `Session.leave`,
`Session.submit`, `Session.submitPaths`.
-/

namespace Courier

/-- What a session works on: the file tree, the latest status text, the journal,
and the wire, whose state is of type `τ`. -/
structure Desk (τ : Type) where
  depot : Depot
  message : Option Text
  journal : Journal
  /-- The base address of requests while the session is open. -/
  base : Option Url
  /-- Was the session ever opened? -/
  opened : Bool
  wire : τ
  deriving Repr

namespace Desk

variable {τ : Type}

/-- The desk before anything happened. -/
def start (tree : Tree) (wire : τ) : Desk τ := ⟨⟨tree, none⟩, none, [], none, false, wire⟩

/-- The desk with one more thing that happened. -/
def happened (d : Desk τ) (e : Event) : Desk τ := { d with journal := d.journal ++ [e] }

/-- Records and shows a status text. -/
def announce (text : Text) : Act (Desk τ) Unit := fun d =>
  (.ok (), { (d.happened (Board.statusRecord text)).happened (.status text) with
    message := some text })

/-- Logs a record. -/
def note (level : Level) (text : Text) (d : Desk τ) : Desk τ := d.happened (.record level text)

/-- Sends a request over the wire. -/
def send (transport : Request → Act τ Response) (r : Request) : Act (Desk τ) Response := fun d =>
  let (outcome, wire) := transport r d.wire
  (outcome, { d.happened (.request r) with wire := wire })

/-- The record of an archive that was saved. -/
def savedRecord (p : Path) (body : Bytes) : Text :=
  "Saved ".toList ++ p.text ++ " (".toList ++ Text.ofNat body.length ++ " bytes)".toList

/-- Saves an archive. -/
def deliver (target : Target) (body : Bytes) (fileName : Text) : Act (Desk τ) Path := fun d =>
  match target.deliver body fileName d.depot with
  | (.error f, depot) => (.error f, { d with depot := depot })
  | (.ok p, depot) => (.ok p, note .info (savedRecord p body) { d with depot := depot })

end Desk

/-- A session: the client that posts, the target that saves, the name for an
archive to which a response gives none, and the encodings of the platform. -/
structure Session where
  client : Client
  target : Target
  fallbackName : Text
  codecs : Codecs
  deriving Repr

namespace Session

variable {τ : Type}

/-- The session of some settings. The output folder may start at a home folder. -/
def ofSettings (homeOf : Text → Option Text) (boundary : Text) (codecs : Codecs) (s : Settings) :
    Except Fault Session :=
  (s.outputFolder.expandHome homeOf).map fun folder =>
    ⟨⟨s.baseUrl, s.endpoint, boundary⟩, ⟨folder, s.fallbackName⟩, s.fallbackName, codecs⟩

/-- The library's own services. -/
def services (session : Session) (transport : Request → Act τ Response) : Services (Desk τ) where
  announce := Desk.announce
  note := Desk.note
  problem? form := form.problem?.map Form.Problem.message
  payload := Form.payload
  post payload := fun d =>
    match session.client.post Desk.note (Desk.send transport) d.base payload d with
    | (.ok exchange, d) => (.ok exchange.response, d)
    | (.error f, d) => (.error f, d)
  deliver := Desk.deliver session.target
  fallbackName := session.fallbackName
  codecs := session.codecs

/-- Opens a session; opening it again is no fault. -/
def enter (session : Session) : Act (Desk τ) Unit := fun d =>
  match session.client.base with
  | .error f => (.error f, d)
  | .ok base => (.ok (), { d with base := some base, opened := true })

/-- Closes a session. -/
def leave : Act (Desk τ) Unit := fun d => (.ok (), { d with base := none })

/-- Runs one cycle on a form. -/
def submit (session : Session) (transport : Request → Act τ Response) (form : Form) :
    Act (Desk τ) Unit := fun d =>
  if d.opened then Cycle.run (session.services transport) form d else (.error .neverOpened, d)

/-- Reads the chosen files and runs one cycle on the form that they fill. -/
def submitPaths (session : Session) (transport : Request → Act τ Response) (schema : Option Path)
    (project : Option Text) (overrides : Option Path) : Act (Desk τ) Unit := fun d =>
  match Form.fromPaths d.depot.tree schema project overrides with
  | .error f => (.error f, d)
  | .ok form => submit session transport form d

end Session
end Courier
