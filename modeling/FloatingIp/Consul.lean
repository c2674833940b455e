import FloatingIp.Fault
import FloatingIp.Log

/-!
# The store over HTTP

A read of a key is one request and what becomes of the answer.  The request is made from the
endpoint, the key and the read options; a token goes along in a header of its own, and one that no
header can carry keeps the request from being sent.  Status 200 brings a marker, 404 says that
there is none, any other status is a fault.
-/

namespace FloatingIp

/-- A store behind an endpoint. -/
structure Consul where
  /-- The endpoint, with a final slash. -/
  endpoint : Url
  /-- How long a read may wait at the store. -/
  wait : Duration
  /-- The access token. -/
  token : Option String

namespace Consul

/-- The name of this kind of store. -/
def name : String := "consul"

/-- A store behind the endpoint that a text spells. -/
def new (endpoint : String) (wait : Duration) (token : Option String) :
    Except EndpointFault Consul := do
  .ok ⟨← parseEndpoint endpoint, wait, token⟩

/-- How much longer than the store may take a read is waited for. -/
def slack : Duration := .ofSeconds 5

/-- After how long a read is given up, if that can be held: the store may take a sixteenth more than
the time that a read may wait there. -/
def readLimit? (wait : Duration) : Option Duration := do
  (← wait.sum? (wait.part 16)).sum? slack

/-- Whether a header can carry a text: it holds no controls except tabs. -/
def isHeaderValue (s : String) : Bool :=
  s.toList.all fun c => c = '\t' || (0x20 ≤ c.toNat && c.toNat ≠ 0x7F)

/-- The request for a key. -/
structure Request where
  url : Url
  token : Option String

/-- What becomes of a request. -/
inductive Response where
  /-- No answer came back. -/
  | nothing
  /-- An answer with its status and body; the body broke off if it is not there. -/
  | answer (status : Nat) (body : Option (List UInt8))

/-- What is told about reads. -/
inductive Notice where
  | read (url : String)
  | readComplete (key : String) (marker : Option Marker)
  deriving DecidableEq, Repr

/-- The text of a marker in a log line. -/
def markerText : Option Marker → String
  | none => "None"
  | some m =>
    "Some(LeaderMarker \x7b value: " ++ Text.quoted m.value ++ ", version: " ++
      Digits.decimal m.version ++ " \x7d)"

/-- The line of a notice. -/
def Notice.line : Notice → Log.Line
  | read url => ⟨.trace, "Consul KV read", [("url", url)]⟩
  | readComplete key marker =>
    ⟨.debug, "Consul KV read complete", [("key", key), ("marker", markerText marker)]⟩

/-- The URL of a key. -/
def url (c : Consul) (key : String) (options : ReadOptions) : Except FloatingIp.Fault Url :=
  match keyUrl c.endpoint c.wait key options with
  | .ok u => .ok u
  | .error fault => .error (.store (.invalidKey key fault))

/-- The request for a URL, if it can be sent. -/
def request? (c : Consul) (url : Url) : Option Request :=
  if (c.token.map isHeaderValue).getD true then some ⟨url, c.token⟩ else none

/-- The marker in the body of an answer. -/
def decode (body : List UInt8) : Except FloatingIp.Fault (Option Marker) :=
  match markerOfBody body with
  | .ok m => .ok m
  | .error (.json refusal) => .error (.body refusal)
  | .error (.base64 refusal) => .error (.store (.invalidValue refusal))

/-- The marker that a response brings. -/
def result (key : String) : Response → Except FloatingIp.Fault (Option Marker)
  | .nothing => .error (.store .requestFailed)
  | .answer 200 body =>
    match body with
    | some body => decode body
    | none => .error (.store .readFailed)
  | .answer 404 _ => .ok none
  | .answer status _ => .error (.store (.unexpectedStatus status key))

/-- What is told about the result of a read: a marker that was read from a body, or that there
was none in it. -/
def completion (key : String) (response : Response) : List Notice :=
  match response, result key response with
  | .answer 200 _, .ok m => [.readComplete key m]
  | _, _ => []

/-- One read, as it was made. -/
structure Read where
  /-- The request, if one was sent. -/
  request : Option Request
  /-- What the read came to. -/
  result : Except FloatingIp.Fault (Option Marker)
  /-- What was told on the way. -/
  notices : List Notice

/-- Reads a key from a store that answers with `response`. -/
def read (c : Consul) (key : String) (options : ReadOptions) (response : Response) : Read :=
  match c.url key options with
  | .error fault => ⟨none, .error fault, []⟩
  | .ok url =>
    let started := Notice.read url.text
    match c.request? url with
    | none => ⟨none, .error (.store .requestFailed), [started]⟩
    | some request => ⟨some request, result key response, started :: completion key response⟩

end Consul
end FloatingIp
