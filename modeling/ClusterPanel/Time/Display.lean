import ClusterPanel.Time.Timestamp

/- How timestamps are shown. `showAbsolute` and `showShortDate` show a missing, blank or unset timestamp as `N/A`
   and one that cannot be read as it stands; `showRelative` shows an age in the largest unit that it fills, and
   from a week on the short date without its year. Zones are offsets in seconds east. -/
namespace ClusterPanel.Time

open Text

/-- What stands for a time that is missing or was never set. -/
def notAvailable : String := "N/A"

def monthName (m : Nat) : List Char :=
  match m with
  | 1 => ['J', 'a', 'n']
  | 2 => ['F', 'e', 'b']
  | 3 => ['M', 'a', 'r']
  | 4 => ['A', 'p', 'r']
  | 5 => ['M', 'a', 'y']
  | 6 => ['J', 'u', 'n']
  | 7 => ['J', 'u', 'l']
  | 8 => ['A', 'u', 'g']
  | 9 => ['S', 'e', 'p']
  | 10 => ['O', 'c', 't']
  | 11 => ['N', 'o', 'v']
  | _ => ['D', 'e', 'c']

theorem length_monthName (m : Nat) : (monthName m).length = 3 := by
  unfold monthName
  split <;> rfl

/-- `Nov 12` -/
def Date.monthAndDayText (d : Date) : List Char := monthName d.month ++ ' ' :: numeral d.day

/-- The hour on a clock face, 12 after midnight and after noon. -/
def clockHour (hour : Nat) : Nat := if hour % 12 = 0 then 12 else hour % 12

def halfDay (hour : Nat) : List Char := if hour < 12 then ['A', 'M'] else ['P', 'M']

/-- `04:31 PM` -/
def CivilTime.minuteText (c : CivilTime) : List Char :=
  paddedDigits 2 (clockHour c.hour) ++ ':' :: paddedDigits 2 c.minute ++ ' ' :: halfDay c.hour

/-- `04:31:48 PM` -/
def CivilTime.secondText (c : CivilTime) : List Char :=
  paddedDigits 2 (clockHour c.hour) ++ ':' :: paddedDigits 2 c.minute ++ ':' :: paddedDigits 2 c.shownSecond ++
    ' ' :: halfDay c.hour

/-- `Nov 12, 2025, 04:31:48 PM` -/
def CivilTime.absoluteText (c : CivilTime) : List Char :=
  c.date.monthAndDayText ++ ',' :: ' ' :: yearText c.date.year ++ ',' :: ' ' :: c.secondText

/-- `Nov 12, 04:31 PM` -/
def CivilTime.shortText (c : CivilTime) : List Char := c.date.monthAndDayText ++ ',' :: ' ' :: c.minuteText

/-- `Nov 12, 2024, 04:31 PM` -/
def CivilTime.shortTextWithYear (c : CivilTime) : List Char :=
  c.date.monthAndDayText ++ ',' :: ' ' :: yearText c.date.year ++ ',' :: ' ' :: c.minuteText

/-- What is known of a time that may be missing. -/
inductive Known where
  | missing
  | unreadable (raw : String)
  | at (instant : Instant)
deriving DecidableEq, Repr

/-- A blank timestamp and the zero time count as missing. -/
def resolve (timestamp : Option String) : Known :=
  match timestamp with
  | none => .missing
  | some raw =>
    if isBlankText raw then .missing
    else
      match readTimestamp raw with
      | none => .unreadable raw
      | some i => if i.isUnset then .missing else .at i

def showAbsolute (timestamp : Option String) (zone : Int) : String :=
  match resolve timestamp with
  | .missing => notAvailable
  | .unreadable raw => raw
  | .at i => .ofList (i.civil zone).absoluteText

/-- The timestamp without seconds; the year only where it is not the year of `now` in the zone. -/
def showShortDate (timestamp : Option String) (now : Instant) (zone : Int) : String :=
  match resolve timestamp with
  | .missing => notAvailable
  | .unreadable raw => raw
  | .at i =>
    let c := i.civil zone
    .ofList (if c.date.year = (now.civil zone).date.year then c.shortText else c.shortTextWithYear)

/-- Units of age. -/
inductive AgeUnit where
  | second
  | minute
  | hour
  | day
deriving DecidableEq, Repr

def AgeUnit.seconds : AgeUnit → Nat
  | second => 1
  | minute => 60
  | hour => 3600
  | day => 86400

def AgeUnit.name : AgeUnit → String
  | second => "second"
  | minute => "minute"
  | hour => "hour"
  | day => "day"

/-- The unit in which an age is told: the largest that it fills, the second for none. From a week on there is none. -/
def ageUnit? (seconds : Nat) : Option AgeUnit :=
  if seconds < 60 then some .second
  else if seconds / 60 < 60 then some .minute
  else if seconds / 3600 < 24 then some .hour
  else if seconds / 86400 < 7 then some .day
  else none

/-- `5 minutes ago` -/
def agoText (amount : Nat) (unit : AgeUnit) : String :=
  String.ofList (numeral amount) ++ " " ++ unit.name ++ (if amount = 1 then "" else "s") ++ " ago"

/-- The age of an instant, none of it when it lies after `now`; from a week on its short date. -/
def Instant.showAge (i : Instant) (now : Instant) (zone : Int) : String :=
  let seconds := (now.secondsSince i).toNat
  match ageUnit? seconds with
  | some unit => agoText (seconds / unit.seconds) unit
  | none => .ofList (i.civil zone).shortText

/-- The age of a timestamp; one that cannot be read is shown as it stands. -/
def showRelative (timestamp : String) (now : Instant) (zone : Int) : String :=
  match readTimestamp timestamp with
  | none => timestamp
  | some i => i.showAge now zone

end ClusterPanel.Time
