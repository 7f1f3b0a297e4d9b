import Courier.Http.Multipart
import Courier.Journal

/-!
# The client of the generator

A client posts payloads to one endpoint. It is opened by reading the base
address; an endpoint that is no address of its own is appended to the base.
Redirections are followed, up to a limit.

Key definitions: `Client`, `Client.base`, `Client.endpointUrl`, `Client.follow`, `Client.post`.
-/

namespace Courier

/-- Where a client posts to, and the boundary that it puts between parts. -/
structure Client where
  baseUrl : Text
  endpoint : Text
  boundary : Text
  deriving DecidableEq, Repr

/-- A request together with the response that it got. -/
structure Exchange where
  request : Request
  response : Response
  deriving Repr

namespace Client

/-- The base address, its path or query closed by a slash. -/
def base (c : Client) : Except Fault Url :=
  ((Url.parse c.baseUrl).bind fun url =>
    if url.target.getLast? = some '/' then .ok url
    else url.withTarget (url.target ++ ['/'])).mapError .address

/-- The address of the endpoint: one of its own, or one below the base. -/
def endpointUrl (c : Client) (base : Url) : Except Fault Url :=
  ((Url.parse c.endpoint).bind fun url =>
    if url.isAbsolute then .ok url
    else base.withTarget (base.target ++ url.target.dropWhile (· == '/'))).mapError .address

/-- The request that posts a payload. -/
def request (c : Client) (base : Url) (payload : Payload) : Except Fault Request :=
  match c.endpointUrl base with
  | .error f => .error f
  | .ok url =>
    let (contentType, body) := payload.encode c.boundary
    Request.toPost url contentType body

/-- How many redirections are followed. -/
def maxRedirects : Nat := 20

variable {σ : Type}

/-- Sends a request, and the ones that redirections lead to, up to `left` in all. -/
def follow (send : Request → Act σ Response) : (left : Nat) → Request → Act σ Exchange
  | 0, _ => fun s => (.error .tooManyRedirects, s)
  | left + 1, r => fun s =>
    match send r s with
    | (.error f, s) => (.error f, s)
    | (.ok response, s) =>
      match r.kindFault?, response.location? with
      | some f, _ => (.error f, s)
      | none, none => (.ok ⟨r, response⟩, s)
      | none, some location =>
        match r.redirected response.status location with
        | .error f => (.error f, s)
        | .ok next =>
          -- the body of a redirection is read to its end before the next request
          match response.read with
          | .error f => (.error f, s)
          | .ok _ => follow send left next s

/-- The line that is logged when a payload is posted. -/
def postRecord (c : Client) (payload : Payload) : Text :=
  "POST ".toList ++ c.baseUrl ++ c.endpoint ++ " fields=[".toList ++
    ", ".toList.intercalate (payload.fieldNames.map Text.quoted) ++ [']']

/-- Posts a payload, given the base address when the client is open. -/
def post (c : Client) (note : Level → Text → σ → σ) (send : Request → Act σ Response)
    (base : Option Url) (payload : Payload) : Act σ Exchange := fun s =>
  match base with
  | none => (.error .clientClosed, s)
  | some base =>
    let s := note .debug (c.postRecord payload) s
    match c.request base payload with
    | .error f => (.error f, s)
    | .ok r => follow send (maxRedirects + 1) r s

end Client
end Courier
