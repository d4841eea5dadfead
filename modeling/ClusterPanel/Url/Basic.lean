import ClusterPanel.Url.Host

/- URLs. A text is read leniently: controls and blanks at its ends, tabs and line breaks anywhere do not count, a
   scheme that names a host may be followed by any number of slashes of either kind, and the path may hold
   anything. What is looked at is the scheme, the host and the port (`parse`). -/
namespace ClusterPanel.Url

open Text

/-- The parts of a URL, as they are written. -/
structure Parts where
  scheme : String
  authority : Option (List Char) := none
  path : List Char := []
  query : Option (List Char) := none
  fragment : Option (List Char) := none
deriving DecidableEq, Repr

/-- A control character or a blank. -/
def isPadding (c : Char) : Bool := c.toNat ≤ 32

def isBreak (c : Char) : Bool := c == '\t' || c == '\n' || c == '\r'

/-- The text that counts. -/
def significant (s : List Char) : List Char :=
  ((s.dropWhile isPadding).reverse.dropWhile isPadding).reverse.filter fun c => !isBreak c

/-- A character of a scheme after the first. -/
def isSchemeChar (c : Char) : Bool := c.isAlphanum || c == '+' || c == '-' || c == '.'

/-- The scheme in small letters, and what follows its colon. -/
def splitScheme (s : List Char) : Option (String × List Char) :=
  let name := s.takeWhile isSchemeChar
  if name.head?.any Char.isAlpha then
    match s.drop name.length with
    | ':' :: rest => some (String.ofList (name.map Char.toLower), rest)
    | _ => none
  else none

/-- Schemes that name a host, the one of files excepted. -/
def namesHost (scheme : String) : Bool := ["http", "https", "ws", "wss", "ftp"].contains scheme

/-- What stands before the first `mark`, and after it if there is one. -/
def splitAtFirst (mark : Char) (s : List Char) : List Char × Option (List Char) :=
  let before := s.takeWhile (· ≠ mark)
  match s.drop before.length with
  | [] => (before, none)
  | _ :: after => (before, some after)

/-- A slash; for schemes that name a host, a backslash as well. -/
def isSlash (special : Bool) (c : Char) : Bool := c == '/' || special && c == '\\'

/-- The host of an authority without user, and what follows its colon if there is one. A colon within brackets
    belongs to the host. -/
def splitPort : Bool → List Char → List Char × Option (List Char)
  | _, [] => ([], none)
  | inside, c :: s =>
    if c = ':' && !inside then ([], some s)
    else
      let p := splitPort (if c = '[' then true else if c = ']' then false else inside) s
      (c :: p.1, p.2)

/-- A port is a number below 2^16, or nothing. -/
def checkPort (s : List Char) : Except Fault Unit :=
  let digits := s.takeWhile (· ≠ '\\')
  if digits.all isDigit && decimalValue digits < 0x10000 then .ok () else .error .port

/-- What stands before the last at sign, if there is one, and what stands after it. -/
def splitUser (s : List Char) : Option (List Char) × List Char :=
  let host := (s.reverse.takeWhile (· ≠ '@')).reverse
  if host.length = s.length then (none, s) else (some (s.take (s.length - host.length - 1)), host)

def isNamed (user : Option (List Char)) : Bool :=
  match user with
  | none => false
  | some u => u ≠ [] && u ≠ [':']

/-- Whether a text is an authority; `followed` says that there is more of the URL after it. -/
def checkAuthority (special followed : Bool) (s : List Char) : Except Fault Unit :=
  let (user, rest) := splitUser s
  let (host, port) := splitPort false rest
  if user = some [] && rest.isEmpty && followed then .error .emptyHost
  else if special && host.isEmpty then .error .emptyHost
  else do
    if special then checkHost host else checkOpaqueHost host
    if host.isEmpty && port.isSome then throw .emptyHost
    match port with
    | none => pure ()
    | some p => checkPort p
    if host.isEmpty && isNamed user then throw .emptyHost

/-- The letter of a drive, which is no host. -/
def isDrive (s : List Char) : Bool :=
  match s with
  | [a, b] => a.isAlpha && (b == ':' || b == '|')
  | _ => false

/-- The parts of the URL that a text is. -/
def parse (text : List Char) : Except Fault Parts :=
  match splitScheme (significant text) with
  | none => .error .relative
  | some (scheme, rest) => do
    let (rest, fragment) := splitAtFirst '#' rest
    let (rest, query) := splitAtFirst '?' rest
    let more := query.isSome || fragment.isSome
    if namesHost scheme then
      let s := rest.dropWhile (isSlash true)
      let authority := s.takeWhile fun c => !isSlash true c
      let path := s.drop authority.length
      checkAuthority true (more || !path.isEmpty) authority
      pure { scheme, authority := some authority, path, query, fragment }
    else if scheme = "file" then
      match rest with
      | a :: b :: s =>
        if isSlash true a && isSlash true b then
          let host := s.takeWhile fun c => !isSlash true c
          if host.isEmpty || isDrive host then pure { scheme, path := s, query, fragment }
          else
            checkHost host
            pure { scheme, authority := some host, path := s.drop host.length, query, fragment }
        else pure { scheme, path := rest, query, fragment }
      | _ => pure { scheme, path := rest, query, fragment }
    else
      match rest with
      | '/' :: '/' :: s =>
        let authority := s.takeWhile (· ≠ '/')
        let path := s.drop authority.length
        checkAuthority false (more || !path.isEmpty) authority
        pure { scheme, authority := some authority, path, query, fragment }
      | _ => pure { scheme, path := rest, query, fragment }

end ClusterPanel.Url
