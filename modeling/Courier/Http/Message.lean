import Courier.Http.Charset
import Courier.Http.Coding
import Courier.Http.Phrase
import Courier.Http.Url.Reference

/-!
# Requests and responses

A request posts a body to an address, or gets what is there. A response has a
status, header fields and a body that arrives in chunks and may break off; the
codings that it went through are undone as it arrives. A response that
redirects names the address of the next request in its location field: some
statuses turn a post into a get, and others repeat the request.

Key definitions: `Request`, `Response`, `Response.read`, `Request.redirected`.
-/

namespace Courier

/-- What a request asks for. -/
inductive Method where
  | post
  | get
  deriving DecidableEq, Repr

/-- The name of a method. -/
def Method.name : Method → Text
  | .post => "POST".toList
  | .get => "GET".toList

/-- A request. -/
structure Request where
  method : Method
  url : Url
  /-- The host that the request names. -/
  host : Option Text
  /-- The media type of the body. -/
  contentType : Option Text
  body : Bytes
  deriving DecidableEq, Repr

namespace Request

/-- The request that posts a body to an address. It names the host, if there is one. -/
def toPost (url : Url) (contentType : Option Text) (body : Bytes) : Except Fault Request :=
  match url.plainHost with
  | .error f => .error (.hostName f)
  | .ok _ => .ok ⟨.post, url, if url.host = [] then none else some url.netloc, contentType, body⟩

/-- The length of its body that a request tells. -/
def contentLength (r : Request) : Option Nat :=
  match r.method with
  | .post => some r.body.length
  | .get => none

end Request

/-- A response. -/
structure Response where
  status : Nat
  /-- The reason phrase that came with the status. -/
  reason : Option Bytes
  headers : Headers
  /-- The body, as it arrives. -/
  chunks : List Bytes
  /-- What breaks the body off after its chunks. -/
  failure : Option Fault
  /-- What goes wrong when the response is put away. -/
  closing : Option Fault
  deriving Repr

namespace Response

/-- Does the status say that the request succeeded? -/
def isSuccess (r : Response) : Bool := 200 ≤ r.status && r.status ≤ 299

/-- What arrives of the body, its codings undone. -/
def arrived (r : Response) : Except Fault Bytes :=
  (Coder.undoAll r.headers.coders (r.chunks.filter (· ≠ []))).mapError .coding

/-- The whole body. A coding that cannot be undone comes to light before the body breaks off. -/
def read (r : Response) : Except Fault Bytes :=
  match r.arrived, r.failure with
  | .error f, _ => .error f
  | .ok _, some f => .error f
  | .ok body, none => .ok body

/-- The body as text. Nothing is asked about the encoding of an empty one. -/
def textOf (codecs : Codecs) (r : Response) (body : Bytes) : Except Fault Text :=
  if body = [] then .ok []
  else
    match Charset.ofHeaders codecs r.headers with
    | .error f => .error f
    | .ok name? => codecs.read name? body

/-- The reason phrase: what came with the status, or else the phrase of the status. -/
def phrase (r : Response) : Text :=
  match r.reason with
  | some bytes => Latin1.decode (bytes.filter fun b => b.toNat < 0x80)
  | none => reasonPhrase r.status

/-- The field that names the address to which a response redirects. -/
def locationField : Text := "location".toList

/-- The statuses that redirect. -/
def redirectStatuses : List Nat := [301, 302, 303, 307, 308]

/-- The location of a response that redirects. -/
def location? (r : Response) : Option Text :=
  if redirectStatuses.contains r.status then r.headers.get? locationField else none

end Response

namespace Request

/-- Does the status repeat the request as it is? The others turn it into a get. -/
def repeats (status : Nat) : Bool := status == 307 || status == 308

/-- A location as an address of its own, its host filled in where only that is missing. -/
def locate (url : Url) (location : Text) : Except Fault Url :=
  match Url.parse location with
  | .error f => .error (.badLocation f)
  | .ok target => do
    let completed ←
      if target.scheme = [] then .ok target
      else
        match target.plainHost, url.plainHost with
        | .error f, _ => .error (.hostName f)
        | .ok [], .error f => .error (.hostName f)
        | .ok [], .ok host => (target.withHost host).mapError .address
        | .ok _, _ => .ok target
    if completed.isAbsolute then .ok completed else (url.join completed).mapError .address

/-- The address of the request after a redirection; it keeps the fragment where
the location has none. -/
def nextUrl (url : Url) (location : Text) : Except Fault Url :=
  match locate url location with
  | .error f => .error f
  | .ok target =>
    if url.plainFragment != [] && target.plainFragment = [] then
      (target.withFragment url.plainFragment).mapError .address
    else .ok target

/-- The request that a redirection leads to. Away from its origin it names the host anew. -/
def redirected (r : Request) (status : Nat) (location : Text) : Except Fault Request := do
  let url ← nextUrl r.url location
  let target ← url.origin.mapError .hostName
  let source ← r.url.origin.mapError .hostName
  let host := if target == source then r.host else some url.netloc
  if repeats status || r.method = .get then return { r with url := url, host := host }
  else return { r with url := url, host := host, method := .get, body := [] }

/-- The fault of a request whose address names no kind of address; it comes to light when
the answer is there. -/
def kindFault? (r : Request) : Option Fault :=
  if r.url.hasKind then none
  else
    let t := r.url.text
    some (.unknownKind (if t.getLast? = some '#' then t.dropLast else t))

end Request
end Courier
