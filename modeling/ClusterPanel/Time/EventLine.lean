import ClusterPanel.Time.Display

/- Event lines of a job, `[2025-11-12T16:31:48+07:00] Job assigned to node`. The leftmost `[` that a `]` follows
   on the same line opens the timestamp, and the first `]` after it closes it; blanks after that, line feeds
   included, are dropped, and the message goes on to the next line feed. What stands before the bracket is
   dropped. A line without such a bracket is all message. -/
namespace ClusterPanel.Time

open Text

/-- An event of a job as it is shown. -/
structure EventRecord where
  /-- what stood between the brackets -/
  timestamp : Option String
  message : String
  /-- the age of the timestamp; empty when there is none -/
  formattedTime : String
deriving DecidableEq, Repr

def EventRecord.hasTimestamp (e : EventRecord) : Bool := e.timestamp.isSome

/-- The text up to the first `]` and what follows it, if no line feed comes before it. -/
def splitAtClosing : List Char → Option (List Char × List Char)
  | [] => none
  | c :: s =>
    if c = ']' then some ([], s)
    else if c = '\n' then none
    else (splitAtClosing s).map fun p => (c :: p.1, p.2)

/-- The text between the first pair of brackets, and what follows the pair. -/
def splitBracketed : List Char → Option (List Char × List Char)
  | [] => none
  | c :: s =>
    if c = '[' then
      match splitAtClosing s with
      | some p => some p
      | none => splitBracketed s
    else splitBracketed s

/-- The message that follows the brackets. -/
def messageAfter (s : List Char) : List Char := (trimStart s).takeWhile (· != '\n')

/-- The event that a line records, its age at `now`. -/
def EventRecord.ofLine (line : String) (now : Instant) (zone : Int) : EventRecord :=
  match splitBracketed line.toList with
  | none => ⟨none, line, ""⟩
  | some (t, rest) =>
    let timestamp := String.ofList t
    ⟨some timestamp, .ofList (messageAfter rest), showRelative timestamp now zone⟩

end ClusterPanel.Time
