import Courier.Archive.Target
import Courier.Journal
import Courier.Status

/-!
# One submit cycle

A form is checked, turned into a payload and posted; the response is read, and
the archive in it is handed over. Every step is announced by a status text.
Whatever goes wrong after the check is caught, logged and announced, so a cycle
always ends with a text that tells how it went; only the user's interrupt is
passed on, and what comes of asking a failure for words that it has not.

The cycle knows its surroundings by what they do. It can be run with the
library's own services or with others in their place.

Key definitions: `Services`, `Outcome`, `Cycle.receive`, `Cycle.run`.
-/

namespace Courier

/-- What a cycle needs from its surroundings, which have a state of type `σ`. -/
structure Services (σ : Type) where
  /-- Shows a status text. -/
  announce : Text → Act σ Unit
  /-- Logs a record. -/
  note : Level → Text → σ → σ
  /-- What a form lacks, in words; empty words mean that it lacks nothing. -/
  problem? : Form → Option Text
  /-- The payload of a form. -/
  payload : Form → Except Fault Payload
  /-- Posts a payload. -/
  post : Payload → Act σ Response
  /-- Saves an archive under a name and tells where. -/
  deliver : Bytes → Text → Act σ Path
  /-- The name of an archive to which the response gives none. -/
  fallbackName : Text
  /-- The further encodings in which a response may be written. -/
  codecs : Codecs

/-- How a response is classified. -/
inductive Outcome where
  | success (body : Bytes) (fileName : Text) (status : Int)
  | failure (status : Int) (message : Text)
  deriving DecidableEq, Repr

namespace Outcome

/-- The status of an archive that arrived as it should. -/
def okStatus : Int := 200

/-- Did an archive arrive? -/
def isSuccess : Outcome → Bool
  | .success .. => true
  | .failure .. => false

/-- The archive; empty where there is none. -/
def body : Outcome → Bytes
  | .success b .. => b
  | .failure .. => []

/-- The name of the archive; empty where there is none. -/
def fileName : Outcome → Text
  | .success _ n _ => n
  | .failure .. => []

/-- The status of the response. -/
def status : Outcome → Int
  | .success _ _ s => s
  | .failure s _ => s

/-- What the server said about a failure. -/
def message : Outcome → Text
  | .success .. => []
  | .failure _ m => m

end Outcome

namespace Cycle

variable {σ : Type}

/-- The record of an archive to which the response gives no name. -/
def unnamedRecord (fallback : Text) : Text :=
  "No filename in Content-Disposition, using ".toList ++ fallback

/-- The record of an archive that was saved. -/
def deliveredRecord (p : Path) : Text := "Archive delivered to ".toList ++ p.text

/-- The record of a cycle that failed. -/
def failedRecord : Text := "Submit failed".toList

/-- What a response without an archive says: its body as text, or its reason phrase. -/
def refusal (codecs : Codecs) (r : Response) : Except Fault Outcome := do
  match ← r.textOf codecs (← r.read) with
  | [] => return .failure r.status r.phrase
  | words => return .failure r.status words

/-- Classifies a response, reading its body. -/
def receive (v : Services σ) (r : Response) : Act σ Outcome := fun s =>
  if r.isSuccess then
    match v.announce Status.generating s with
    | (.error f, s) => (.error f, s)
    | (.ok (), s) =>
      match r.read with
      | .error f => (.error f, s)
      | .ok body =>
        match fileNameOf (r.headers.get? dispositionField) with
        | .error f => (.error (.disposition f), s)
        | .ok (some name) => (.ok (.success body name r.status), s)
        | .ok none =>
          (.ok (.success body v.fallbackName r.status),
            v.note .debug (unnamedRecord v.fallbackName) s)
  else (refusal v.codecs r, s)

/-- Puts a response away after it was read; a fault in doing so comes before any other. -/
def putAway {α : Type} (r : Response) (outcome : Except Fault α) : Except Fault α :=
  match r.closing with
  | some f => .error f
  | none => outcome

/-- Posts a payload and classifies the response. -/
def exchange (v : Services σ) (payload : Payload) : Act σ Outcome := fun s =>
  match v.post payload s with
  | (.error f, s) => (.error f, s)
  | (.ok r, s) =>
    let (outcome, s) := receive v r s
    (putAway r outcome, s)

/-- Saves the archive, or announces what the server said. -/
def conclude (v : Services σ) : Outcome → Act σ Unit
  | .failure status message => v.announce (Status.serverError status message)
  | .success body name _ => fun s =>
    match v.deliver body name s with
    | (.error f, s) => (.error f, s)
    | (.ok p, s) => v.announce Status.downloadStarted (v.note .debug (deliveredRecord p) s)

/-- The part of a cycle in which faults are caught. -/
def attempt (v : Services σ) (form : Form) : Act σ Unit := fun s =>
  match v.payload form with
  | .error f => (.error f, s)
  | .ok payload =>
    match v.announce Status.uploading s with
    | (.error f, s) => (.error f, s)
    | (.ok (), s) =>
      match exchange v payload s with
      | (.error f, s) => (.error f, s)
      | (.ok outcome, s) => conclude v outcome s

/-- Runs an action; a fault of it is logged and announced, unless it is the user's interrupt.
A fault that cannot be described gives way to the one that keeps it from being described. -/
def guarded (v : Services σ) (action : Act σ Unit) : Act σ Unit := fun s =>
  match action s with
  | (.ok (), s) => (.ok (), s)
  | (.error f, s) =>
    if f.isInterrupt then (.error f, s)
    else
      match f.describe with
      | .error why => (.error why, v.note .error failedRecord s)
      | .ok told => v.announce (Status.error told) (v.note .error failedRecord s)

/-- Runs one cycle on a form. -/
def run (v : Services σ) (form : Form) : Act σ Unit := fun s =>
  match v.announce Status.preparing s with
  | (.error f, s) => (.error f, s)
  | (.ok (), s) =>
    match v.problem? form with
    | some (c :: cs) => v.announce (c :: cs) s
    | _ => guarded v (attempt v form) s

end Cycle
end Courier
