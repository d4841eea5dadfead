import ClusterPanel.Job.Status
import ClusterPanel.Text.Blank

/- Endpoints: what stands in a URL after the base of the interface. The login endpoint is told by its path, that is
   without what follows a question mark or number sign and without slashes at the end. -/
namespace ClusterPanel

open Text

/-- The endpoint at which credentials are exchanged for a token. -/
def loginEndpoint : String := "/auth/login"

/-- The part of an endpoint before a question mark or number sign. -/
def endpointPath (endpoint : String) : List Char := endpoint.toList.takeWhile fun c => c ≠ '?' && c ≠ '#'

/-- Whether an endpoint is the login endpoint. -/
def isLoginEndpoint (endpoint : String) : Bool := trimEndOf '/' (endpointPath endpoint) == loginEndpoint.toList

/-- The URL of an endpoint. Between the base and the endpoint stands one slash, unless the endpoint has more. -/
def urlOf (base endpoint : String) : String :=
  if endpoint.toList.head? = some '/' then base ++ endpoint else base ++ "/" ++ endpoint

/-- What can be read from the backend. -/
inductive Resource where
  | jobs (status : Option JobStatus)
  | job (id : String)
  | jobStatus (id : String)
  | jobEvents (id : String)
  | instances
  | instanceOf (id : String)
  | nodes
  | node (id : String)
  | nodeHealth (id : String)
  | statistics
deriving DecidableEq, Repr

/-- The endpoint that jobs are listed at and submitted to. -/
def jobsEndpoint : String := "/jobs"

/-- Where a resource is read. -/
def Resource.endpoint : Resource → String
  | jobs none => jobsEndpoint
  | jobs (some status) => jobsEndpoint ++ "?status=" ++ status.name
  | job id => "/jobs/" ++ id
  | jobStatus id => "/jobs/" ++ id ++ "/status"
  | jobEvents id => "/jobs/" ++ id ++ "/events"
  | instances => "/instances"
  | instanceOf id => "/instances/" ++ id
  | nodes => "/nodes"
  | node id => "/nodes/" ++ id
  | nodeHealth id => "/nodes/" ++ id ++ "/health"
  | statistics => "/stats"

end ClusterPanel
