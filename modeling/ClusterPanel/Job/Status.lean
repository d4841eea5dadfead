import ClusterPanel.Json.Printer
import ClusterPanel.Json.Reader

/- The status that a list of jobs can be narrowed to. On the command line a status is named in any case of letters
   with blanks around it; in JSON it is the exact name, alone or as the key of an object that holds `null`. -/
namespace ClusterPanel

open Json Text

inductive JobStatus where
  | queued
  | active
  | completed
  | failed
deriving DecidableEq, Repr

namespace JobStatus

/-- Every status, in the order of a job's life. -/
def all : List JobStatus := [queued, active, completed, failed]

def name : JobStatus → String
  | queued => "queued"
  | active => "active"
  | completed => "completed"
  | failed => "failed"

/-- A status by its name, letters of any case and blanks around it allowed. -/
def ofText? (raw : String) : Option JobStatus :=
  all.find? fun s => equalFold s.name.toList (trim raw.toList)

def unknownMessage (raw : String) : String :=
  "unknown job status '" ++ raw ++ "': expected queued, active, completed or failed"

def toValue (s : JobStatus) : Value := .string s.name

def readName (s : Bytes) : Except Fault (JobStatus × Bytes) := do
  let p ← readStringFor "variant identifier" s
  match all.find? (·.name == p.1) with
  | some x => pure (x, p.2)
  | none => throw (.here (.unknownVariant p.1 (all.map name)) p.2)

/-- Nothing but `null`. -/
def readNull (s : Bytes) : Except Fault (Unit × Bytes) :=
  match skipBlanks s with
  | [] => .error (.here .endOfValue [])
  | b :: r =>
    if b = letter 'n' then readWord [letter 'u', letter 'l', letter 'l'] r else readMismatch "unit" (b :: r)

def read (s : Bytes) : Except Fault (JobStatus × Bytes) :=
  match skipBlanks s with
  | [] => .error (.here .endOfValue [])
  | b :: r =>
    if b = objectOpen then do
      let p ← readName r
      let c ← readColon p.2
      let n ← readNull c.2
      match skipBlanks n.2 with
      | [] => throw (.here .endOfObject [])
      | d :: t => if d = objectClose then pure (p.1, t) else throw (.here .expectedValue (d :: t))
    else if b = quoteByte then readName (b :: r)
    else .error (.next .expectedValue (b :: r))

end JobStatus

end ClusterPanel
