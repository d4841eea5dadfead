/- Diagnostics. What goes wrong without being the answer to a call is reported as a warning, and the failure of a
   call is reported as an error besides being returned. A report has a message and named details. -/
namespace ClusterPanel

inductive Diagnostic where
  | discardedRecord (reason : String)
  | unreadableRecord (reason : String)
  | unsavedSession (reason : String)
  | unusableToken
  | failedRequest (endpoint kind reason : String)
deriving DecidableEq, Repr

inductive Severity where
  | warning
  | error
deriving DecidableEq, Repr

def Severity.name : Severity → String
  | warning => "WARN"
  | error => "ERROR"

namespace Diagnostic

def severity : Diagnostic → Severity
  | failedRequest _ _ _ => .error
  | _ => .warning

def message : Diagnostic → String
  | discardedRecord _ => "discarding unparsable session record"
  | unreadableRecord _ => "failed to read session record"
  | unsavedSession _ => "failed to persist session"
  | unusableToken => "session token is not a valid header value, sending without it"
  | failedRequest _ _ _ => "API request failed"

def details : Diagnostic → List (String × String)
  | discardedRecord reason => [("error", reason)]
  | unreadableRecord reason => [("error", reason)]
  | unsavedSession reason => [("error", reason)]
  | unusableToken => []
  | failedRequest endpoint kind reason => [("endpoint", endpoint), ("kind", kind), ("error", reason)]

end Diagnostic

end ClusterPanel
