import ClusterPanel.Text.Quoted
import ClusterPanel.Time.Timestamp

/- The session: who is logged in, and with which credential. A token that is not empty is what being logged in
   means; the empty session is the logged-out state. Diagnostics show that there is a token and never the token
   itself (`Session.describe`). -/
namespace ClusterPanel

open Text Time

/-- The authenticated identity, or none. -/
structure Session where
  token : Option String := none
  username : Option String := none
  expiresAt : Option Instant := none
deriving DecidableEq, Repr, Inhabited

namespace Session

/-- Logged out. -/
def empty : Session := {}

/-- The credential to present, if there is a usable one. -/
def bearer? (s : Session) : Option String := s.token.filter (· ≠ "")

def isAuthenticated (s : Session) : Bool := s.bearer?.isSome

/-- Whether the session is known to have expired by `now`. -/
def isExpired (s : Session) (now : Instant) : Bool := s.expiresAt.any (·.le now)

/-- What stands for a secret in diagnostics. -/
def redacted : String := "<redacted>"

/-- A value in diagnostics that may be absent. -/
def describeOption (x : Option String) : String :=
  match x with
  | none => "None"
  | some s => "Some(" ++ s ++ ")"

def describe (s : Session) : String :=
  "Session \x7b token: " ++ describeOption (s.token.map fun _ => quoted redacted) ++
    ", username: " ++ describeOption (s.username.map quoted) ++
    ", expires_at: " ++ describeOption (s.expiresAt.map Instant.rfc3339Z) ++ " \x7d"

end Session

end ClusterPanel
