import ClusterPanel.Json.Printer
import ClusterPanel.Json.Record
import ClusterPanel.Time.EventLine

/- The events of a job: the answer of the backend, which lists event lines as texts, and the records that are made
   of the lines. -/
namespace ClusterPanel

open Json Time

/-- The event lines of a job, the oldest first. -/
structure JobEvents where
  jobId : String := ""
  events : List String := []
deriving DecidableEq, Repr

namespace JobEvents

structure Draft where
  jobId : Option String := none
  events : Option (List String) := none

def shape : Shape Draft JobEvents where
  name := "JobEvents"
  fields :=
    [.of "job_id" true Draft.jobId (fun d v => { d with jobId := some v }) readString,
     .of "events" true Draft.events (fun d v => { d with events := some v }) (readList readString)]
  start := {}
  finish d := .ok { jobId := d.jobId.getD "", events := d.events.getD [] }

def toValue (e : JobEvents) : Value :=
  .object [("job_id", .string e.jobId), ("events", .array (e.events.map Value.string))]

end JobEvents

namespace Time.EventRecord

structure Draft where
  timestamp : Option (Option String) := none
  message : Option String := none
  formattedTime : Option String := none

def shape : Shape Draft EventRecord where
  name := "EventRecord"
  fields :=
    [.of "timestamp" false Draft.timestamp (fun d v => { d with timestamp := some v }) (readOption readString),
     .of "message" false Draft.message (fun d v => { d with message := some v }) readString,
     .of "formatted_time" false Draft.formattedTime (fun d v => { d with formattedTime := some v }) readString]
  start := {}
  finish d := do
    let message ← required "message" d.message
    let formattedTime ← required "formatted_time" d.formattedTime
    pure { timestamp := d.timestamp.getD none, message, formattedTime }

def toValue (e : EventRecord) : Value :=
  .object
    [("timestamp", match e.timestamp with | none => .null | some t => .string t), ("message", .string e.message),
     ("formatted_time", .string e.formattedTime)]

end Time.EventRecord

end ClusterPanel
