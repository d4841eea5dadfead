import ClusterPanel.Json.Printer
import ClusterPanel.Json.Record
import ClusterPanel.Session.Basic

/- The stored form of a session, a JSON object of token, username and expiry. All three may be missing; an empty
   token counts as none. The expiry is read leniently (`readRelaxed`) and written in Coordinated Universal Time. -/
namespace ClusterPanel

open Json Text Time

def Time.readInstant (s : Bytes) : Except Fault (Instant × Bytes) := do
  let p ← readStringFor "an RFC 3339 formatted date and time string" s
  match readRelaxed p.1.toList with
  | .ok i => pure (i, p.2)
  | .error e => throw (.here (.notAccepted e.message) p.2)

namespace Session

/-- What was read of a session: each part may be missing or `null`. -/
structure Draft where
  token : Option (Option String) := none
  username : Option (Option String) := none
  expiresAt : Option (Option Instant) := none

def shape : Shape Draft Session where
  name := "Session"
  fields :=
    [.of "token" true Draft.token (fun d v => { d with token := some v }) (readOption readString),
     .of "username" true Draft.username (fun d v => { d with username := some v }) (readOption readString),
     .of "expiresAt" true Draft.expiresAt (fun d v => { d with expiresAt := some v }) (readOption readInstant)]
  start := {}
  finish d := .ok
    { token := (d.token.getD none).filter (· ≠ ""), username := d.username.getD none,
      expiresAt := d.expiresAt.getD none }

def ofText (text : String) : Except Fault Session := readAll shape.read (bytesOf text)

/-- A value that may be absent; an absent one is `null`. -/
def optionValue (x : Option String) : Value :=
  match x with
  | none => .null
  | some s => .string s

def toValue (s : Session) : Value :=
  .object [("token", optionValue s.token), ("username", optionValue s.username),
    ("expiresAt", optionValue (s.expiresAt.map Instant.rfc3339Z))]

/-- The text under which the session is stored. -/
def toText (s : Session) : String := s.toValue.compact

end Session

end ClusterPanel
