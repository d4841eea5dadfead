import ClusterPanel.Job.Events
import ClusterPanel.Output.Basic
import ClusterPanel.Session.Record
import ClusterPanel.Time.Display

/- What is shown besides answers: the events of a job, the session, and messages. -/
namespace ClusterPanel

open Json Text Time

/-- A text filled up with blanks to a number of characters. -/
def filledUp (width : Nat) (s : String) : String := s ++ String.ofList (List.replicate (width - s.length) ' ')

/-- The width of the column for the ages of events. -/
def ageWidth : Nat := 20

/-- The two columns of the table of events. -/
def eventLine (age message : String) : String := line (filledUp ageWidth age ++ "  " ++ message)

/-- The rule below the heads of the columns. -/
def eventRule : String := line (String.ofList (List.replicate 72 '─'))

/-- The events of a job, the ages at the time of showing. -/
def JobEvents.records (clock : Clock) (e : JobEvents) : List EventRecord :=
  e.events.map fun l => .ofLine l clock.now clock.zone

/-- The events of a job as a table. -/
def JobEvents.table (clock : Clock) (e : JobEvents) : String :=
  if e.events.isEmpty then line ("No events for job " ++ e.jobId)
  else
    eventLine "WHEN" "MESSAGE" ++ eventRule ++
      String.join ((e.records clock).map fun r => eventLine r.formattedTime r.message) ++ line "" ++
      line ("Total: " ++ String.ofList (numeral e.events.length) ++ " event(s)")

/-- The events of a job as they are shown. -/
def JobEvents.shown (clock : Clock) (e : JobEvents) : Shown where
  value := .object [("job_id", .string e.jobId), ("events", .array ((e.records clock).map EventRecord.toValue))]
  table := e.table clock

/-- The expiry of a session as text. -/
def Session.expiryText (s : Session) : Option String := s.expiresAt.map Instant.rfc3339

def Session.table (clock : Clock) (s : Session) : String :=
  if !s.isAuthenticated then line "Not logged in"
  else
    let note := if s.isExpired clock.now then " (expired)" else ""
    line ("Username:  " ++ s.username.getD "-") ++
      line ("Expires:   " ++ showAbsolute s.expiryText clock.zone ++ note)

/-- The session as it is shown, without its token. -/
def Session.shown (clock : Clock) (s : Session) : Shown where
  value := .object
    [("authenticated", .bool s.isAuthenticated), ("username", optionValue s.username),
     ("expires_at", optionValue s.expiryText), ("expired", .bool (s.isExpired clock.now))]
  table := s.table clock

/-- A message, which may tell of a success. -/
structure Message where
  text : String
  success : Bool := false
deriving DecidableEq, Repr

def Message.shown (m : Message) : Shown where
  value := .object (("message", .string m.text) :: if m.success then [("success", .bool true)] else [])
  table := line ((if m.success then "✓ " else "") ++ m.text)

end ClusterPanel
