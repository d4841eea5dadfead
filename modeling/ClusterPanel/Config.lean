import ClusterPanel.Client.Basic
import ClusterPanel.Text.Quoted
import ClusterPanel.Url.Basic

/- The configuration of a client: where the backend is, how long a request may take, and where the session is
   recorded. A setting is the usual one unless a variable of the environment says otherwise; a variable that is
   blank says nothing. A configuration is usable if its URL is one of the web, without query and fragment, its path
   starts with a slash, and its timeout is not zero (`Config.validate`). -/
namespace ClusterPanel

open Text

/-- The configuration of a client. The timeout counts milliseconds. -/
structure Config where
  baseUrl : String := "http://localhost:8080"
  basePath : String := "/api/v1"
  timeout : Nat := 30000
  sessionPath : Option String := none
deriving DecidableEq, Repr

inductive ConfigFault where
  | url (url reason : String)
  | basePath (path : String)
  | timeout (reason : String)
  | noSessionPath
  | sessionPath (path reason : String)
deriving DecidableEq, Repr

def ConfigFault.message : ConfigFault → String
  | url u reason => "invalid base URL '" ++ u ++ "': " ++ reason
  | basePath p => "invalid base path '" ++ p ++ "': must start with '/'"
  | timeout reason => "invalid timeout: " ++ reason
  | noSessionPath => "no session file location: set CENTRO_SESSION_FILE"
  | sessionPath p reason => "unusable session file '" ++ p ++ "': " ++ reason

/-- What a program finds where it runs: variables with their values, and the directory for configurations. -/
structure Environment where
  settings : List (String × String) := []
  configDirectory : Option String := none
deriving Repr

namespace Environment

def value? (name : String) (e : Environment) : Option String := (e.settings.find? (·.1 = name)).map (·.2)

/-- The value of a variable that is not blank. -/
def setting? (name : String) (e : Environment) : Option String := (e.value? name).filter fun v => !isBlankText v

/-- Where a session is recorded if nothing else is said. -/
def sessionPath (e : Environment) : Option String := e.configDirectory.map (· ++ "/centro/auth.json")

end Environment

/-- The variable for the URL of the backend. -/
def urlVariable : String := "CENTRO_URL"

/-- The variable for the timeout in seconds. -/
def timeoutVariable : String := "CENTRO_TIMEOUT_SECS"

/-- The variable for the path of the session file. -/
def sessionFileVariable : String := "CENTRO_SESSION_FILE"

/-- Why a timeout of zero is refused. -/
def zeroTimeout : ConfigFault := .timeout "timeout must be greater than 0"

/-- A number below 2^64 in base ten; a plus sign may stand before it. -/
def wholeNumber? (s : List Char) : Option Nat :=
  let digits := if s.head? = some '+' then s.drop 1 else s
  let n := decimalValue digits
  if !digits.isEmpty && digits.all isDigit && n < 0x10000000000000000 then some n else none

/-- A timeout in seconds, as milliseconds. -/
def readTimeout (raw : String) : Except ConfigFault Nat :=
  match wholeNumber? (trim raw.toList) with
  | none => .error (.timeout ("'" ++ raw ++ "' is not a whole number of seconds"))
  | some 0 => .error zeroTimeout
  | some n => .ok (n * 1000)

namespace Config

def usual (e : Environment) : Config := { sessionPath := e.sessionPath }

/-- Why a URL cannot be that of the backend, if so. -/
def urlFault? (url : String) : Option String :=
  if isBlankText url then some "must not be empty"
  else
    match Url.parse url.toList with
    | .error f => some f.message
    | .ok parts =>
      if parts.scheme ≠ "http" && parts.scheme ≠ "https" then some "scheme must be http or https"
      else if parts.query.isSome || parts.fragment.isSome then some "must not carry a query or fragment"
      else none

def validate (c : Config) : Except ConfigFault Unit :=
  match urlFault? c.baseUrl with
  | some reason => .error (.url c.baseUrl reason)
  | none =>
    if c.basePath.toList.head? ≠ some '/' then .error (.basePath c.basePath)
    else if c.timeout = 0 then .error zeroTimeout
    else .ok ()

def ofEnvironment (e : Environment) : Except ConfigFault Config := do
  let c := usual e
  let c := { c with baseUrl := ((e.setting? urlVariable).map trimText).getD c.baseUrl }
  let timeout ←
    match e.setting? timeoutVariable with
    | some raw => readTimeout raw
    | none => pure c.timeout
  let c := { c with timeout, sessionPath := (e.setting? sessionFileVariable).or c.sessionPath }
  c.validate
  pure c

/-- The base of the interface, to which endpoints are added. No slash stands at its end. -/
def apiBase (c : Config) : String :=
  String.ofList (trimEndOf '/' c.baseUrl.toList ++ trimEndOf '/' c.basePath.toList)

/-- The path of the session file, which must not be a directory. -/
def sessionFile (t : Files.Tree) (c : Config) : Except ConfigFault String :=
  match c.sessionPath with
  | none => .error .noSessionPath
  | some p => if t.isDirectory (.ofText p) then .error (.sessionPath p "is a directory") else .ok p

end Config

namespace Client

/-- The client of a configuration, with the session that is recorded. -/
def ofConfig (c : Config) (t : Files.Tree) (replies : List Http.Reply) : Except ConfigFault Client := do
  c.validate
  let path ← c.sessionFile t
  pure (create c.apiBase (.file (.ofText path) t) replies)

def describe (c : Client) : String := "RequestDispatcher \x7b api_base: " ++ quoted c.base ++ ", .. \x7d"

end Client

end ClusterPanel
