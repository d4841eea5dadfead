import ClusterPanel.Client.Basic
import ClusterPanel.Job.Events
import ClusterPanel.Job.Submission
import ClusterPanel.Login

/- The calls of the backend, each one request: logging in, reading a resource, submitting a job. -/
namespace ClusterPanel

open Json Time

/-- A payload, or why it cannot be written as JSON. -/
abbrev Payload := Except Cause Value

def RequestOptions.post (v : Value) : RequestOptions := { method := "POST", body := some v.compact }

namespace Client

/-- Exchanges credentials for a token. The session stays as it is. -/
def authenticate (credentials : LoginRequest) (c : Client) : Except Failure LoginResponse × Client :=
  c.request (readAll LoginResponse.shape.read) loginEndpoint (.post credentials.toValue)

/-- Logs in, and writes the session that is opened. There is none if the lifetime of the token is no duration. -/
def login (credentials : LoginRequest) (now : Instant) (c : Client) : Except Failure (Option Session) × Client :=
  match c.authenticate credentials with
  | (.error f, c) => (.error f, c)
  | (.ok response, c) =>
    match Session.ofLogin response now with
    | none => (.ok none, c)
    | some session => (.ok (some session), c.write session)

def get (r : Resource) (c : Client) : Except Failure Value × Client := c.request Value.ofBytes r.endpoint {}

def jobEvents (id : String) (c : Client) : Except Failure JobEvents × Client :=
  c.request (readAll JobEvents.shape.read) (Resource.jobEvents id).endpoint {}

def submit (payload : Payload) (c : Client) : Except Failure Value × Client :=
  match payload with
  | .error cause => (.error (.invalidRequest ("failed to encode body: " ++ cause.message)), c)
  | .ok v => c.request Value.ofBytes jobsEndpoint (.post v)

end Client

end ClusterPanel
