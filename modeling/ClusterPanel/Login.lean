import ClusterPanel.Session.Record

/- Logging in: the credentials that are posted, the answer, and the session that it opens. The answer's lifetime
   counts seconds; none or a negative one leaves the expiry unknown, as does one whose end lies beyond the years
   that dates may have. -/
namespace ClusterPanel

open Json Text Time

/-- The credentials of a login. -/
structure LoginRequest where
  username : String
  password : String
deriving DecidableEq, Repr

/-- The answer to a login. -/
structure LoginResponse where
  token : String
  expiresIn : Int
  username : String
deriving DecidableEq, Repr

namespace LoginRequest

structure Draft where
  username : Option String := none
  password : Option String := none

def shape : Shape Draft LoginRequest where
  name := "LoginRequest"
  fields :=
    [.of "username" false Draft.username (fun d v => { d with username := some v }) readString,
     .of "password" false Draft.password (fun d v => { d with password := some v }) readString]
  start := {}
  finish d := do
    let username ← required "username" d.username
    let password ← required "password" d.password
    pure { username, password }

def toValue (r : LoginRequest) : Value := .object [("username", .string r.username), ("password", .string r.password)]

/-- The credentials in diagnostics, without the password. -/
def describe (r : LoginRequest) : String :=
  "LoginRequest \x7b username: " ++ quoted r.username ++ ", password: " ++ quoted Session.redacted ++ " \x7d"

end LoginRequest

namespace LoginResponse

structure Draft where
  token : Option String := none
  expiresIn : Option Int := none
  username : Option String := none

def shape : Shape Draft LoginResponse where
  name := "LoginResponse"
  fields :=
    [.of "token" false Draft.token (fun d v => { d with token := some v }) readString,
     .of "expires_in" true Draft.expiresIn (fun d v => { d with expiresIn := some v }) readInt64,
     .of "username" false Draft.username (fun d v => { d with username := some v }) readString]
  start := {}
  finish d := do
    let token ← required "token" d.token
    let username ← required "username" d.username
    pure { token, expiresIn := d.expiresIn.getD 0, username }

def toValue (r : LoginResponse) : Value :=
  .object [("token", .string r.token), ("expires_in", .int r.expiresIn), ("username", .string r.username)]

/-- The answer in diagnostics, without the token. -/
def describe (r : LoginResponse) : String :=
  "LoginResponse \x7b token: " ++ quoted Session.redacted ++ ", expires_in: " ++
    String.ofList (integerNumeral r.expiresIn) ++ ", username: " ++ quoted r.username ++ " \x7d"

end LoginResponse

/-- The longest lifetime that counts as a duration: 2^63 milliseconds less one, in whole seconds. -/
def maxLifetime : Int := 9223372036854775

/-- When a lifetime that starts at `now` ends, if that is known. -/
def expiry (lifetime : Int) (now : Instant) : Option Instant :=
  if 0 < lifetime && (now.addSeconds lifetime).inRange then some (now.addSeconds lifetime) else none

/-- The session that a login opens. A lifetime that is no duration has no session: the program stops there. -/
def Session.ofLogin (r : LoginResponse) (now : Instant) : Option Session :=
  if maxLifetime < r.expiresIn then none
  else some { token := some r.token, username := some r.username, expiresAt := expiry r.expiresIn now }

end ClusterPanel
