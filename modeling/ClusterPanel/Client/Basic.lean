import ClusterPanel.Client.Endpoint
import ClusterPanel.Client.Failure
import ClusterPanel.Http.Message
import ClusterPanel.Session.Store

/- The client of the backend. Every request goes out through `Client.send`, which adds the credential of the current
   session (never at the login endpoint), and comes back through `Client.complete`, which clears the session when the
   answer has status 401 and otherwise does not touch it. Between the two the session may change: a request carries
   the credential of the session at the time when it was sent. -/
namespace ClusterPanel

open Http Text

/-- What a caller says of a request. Its header fields stand over the usual ones. -/
structure RequestOptions where
  method : String := "GET"
  headers : Headers := []
  body : Option String := none
deriving DecidableEq, Repr

/-- A client: where the backend is, the session, the replies that the network will yet give, the requests that were
    sent and the sessions that were written, the oldest first. -/
structure Client where
  base : String
  store : SessionStore
  replies : List Reply := []
  sent : List Request := []
  written : List Session := []
deriving Repr

/-- The name of the header field for credentials. -/
def authorization : String := "authorization"

/-- The name of the header field for the type of a body. -/
def contentType : String := "content-type"

/-- A credential as a header value, if it can be one. -/
def bearerValue? (token : String) : Option String :=
  let value := "Bearer " ++ token
  if isHeaderValue value then some value else none

/-- The header fields of a request that has no credential. -/
def plainHeaders (extra : Headers) : Headers :=
  (Headers.override extra (Headers.set contentType "application/json" [])).erase authorization

/-- The credential that goes with a request, as a header value. -/
def credential? (session : Session) (endpoint : String) : Option String :=
  if isLoginEndpoint endpoint then none else session.bearer?.bind bearerValue?

def buildRequest (base : String) (session : Session) (endpoint : String) (o : RequestOptions) : Request where
  method := o.method
  url := urlOf base endpoint
  headers :=
    match credential? session endpoint with
    | some value => (plainHeaders o.headers).set authorization value
    | none => plainHeaders o.headers
  body := o.body

/-- What there is to report of a request: a credential that cannot go with it. -/
def unusableCredential (session : Session) (endpoint : String) : List Diagnostic :=
  if !isLoginEndpoint endpoint && session.bearer?.isSome && (credential? session endpoint).isNone then [.unusableToken]
  else []

/-- The message of a failed response: the `error` member of its body, unless that says nothing. -/
def errorMessage? (body : List UInt8) : Option String :=
  match Json.Value.ofBytes body with
  | .error _ => none
  | .ok v =>
    match v.member? "error" with
    | none => none
    | some .null => none
    | some (.bool false) => none
    | some (.string s) => if s.isEmpty then none else some s
    | some v => some v.compact

/-- What a reply means to a caller who expects a value that `read` takes. -/
def classify {α : Type} (read : Json.Bytes → Except Json.Fault α) : Reply → Except Failure α
  | .failed reason => .error (.transport reason)
  | .response status body =>
    if status = Http.unauthorized then .error .unauthorized
    else if !isSuccess status then
      .error (.requestFailed status ((errorMessage? body).getD ("HTTP " ++ String.ofList (numeral status))))
    else
      match read body with
      | .ok x => .ok x
      | .error f => .error (.malformed ("invalid response body: " ++ f.message body))

namespace Client

/-- The client of a backend over a storage. Slashes at the end of the base do not count. -/
def create (base : String) (storage : Storage) (replies : List Reply) : Client where
  base := String.ofList (trimEndOf '/' base.toList)
  store := .ofStorage storage
  replies := replies

def write (session : Session) (c : Client) : Client :=
  { c with store := c.store.write session, written := c.written ++ [session] }

def logout (c : Client) : Client := c.write .empty

def report (ds : List Diagnostic) (c : Client) : Client := { c with store := { c.store with log := c.store.log ++ ds } }

/-- The request for an endpoint, as it would be sent now, and what there is to report of it. -/
def build (endpoint : String) (o : RequestOptions) (c : Client) : Request × Client :=
  (buildRequest c.base c.store.current endpoint o, c.report (unusableCredential c.store.current endpoint))

def send (endpoint : String) (o : RequestOptions) (c : Client) : Client :=
  let r := c.build endpoint o
  { r.2 with sent := r.2.sent ++ [r.1] }

/-- What is said when the network gives no more replies. -/
def exhausted : Reply := .failed "script exhausted"

def receive (c : Client) : Reply × Client :=
  match c.replies with
  | [] => (exhausted, c)
  | r :: rest => (r, { c with replies := rest })

/-- Whether a reply says that the credential is not accepted. -/
def rejects : Reply → Bool
  | .response status _ => status = Http.unauthorized
  | .failed _ => false

/-- Clears the session if the credential is not accepted. -/
def settle (reply : Reply) (c : Client) : Client := if rejects reply then c.logout else c

/-- What there is to report of a result. -/
def failures {α : Type} (endpoint : String) : Except Failure α → List Diagnostic
  | .ok _ => []
  | .error f => [.failedRequest endpoint f.kind.name f.message]

/-- Takes in the reply to a request. -/
def complete {α : Type} (read : Json.Bytes → Except Json.Fault α) (endpoint : String) (reply : Reply) (c : Client) :
    Except Failure α × Client :=
  let result := classify read reply
  (result, (c.settle reply).report (failures endpoint result))

/-- Sends a request and takes in the reply to it. -/
def request {α : Type} (read : Json.Bytes → Except Json.Fault α) (endpoint : String) (o : RequestOptions)
    (c : Client) : Except Failure α × Client :=
  let r := (c.send endpoint o).receive
  r.2.complete read endpoint r.1

end Client

end ClusterPanel
