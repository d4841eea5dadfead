import ClusterPanel.Time.Layout

/- Timestamps as texts. `readTimestamp` takes RFC 3339 and, as Coordinated Universal Time, two layouts without an
   offset; blanks around the text do not count. `readRelaxed` is the more lenient reading of RFC 3339 that stored
   sessions go through. `Instant.rfc3339` writes: years outside 0 to 9999 carry a sign, and the fraction has 0, 3,
   6 or 9 digits, the fewest that are exact. -/
namespace ClusterPanel.Time

open Text

/-- RFC 3339 up to the offset: all fields at their full width. -/
def strictLayout : List Item :=
  [.exact .year 4, .mark '-', .exact .month 2, .mark '-', .exact .day 2, .oneOf ['t', 'T', ' '], .exact .hour 2,
   .mark ':', .exact .minute 2, .mark ':', .exact .second 2, .fraction]

/-- Date and time without an offset, set apart by `T` or by blanks. -/
def plainLayouts : List (List Item) :=
  [[.loose .year, .mark '-', .loose .month, .mark '-', .loose .day, .mark 'T', .loose .hour, .mark ':',
    .loose .minute, .mark ':', .loose .second, .fraction],
   [.loose .year, .mark '-', .loose .month, .mark '-', .loose .day, .blanks, .loose .hour, .mark ':',
    .loose .minute, .mark ':', .loose .second, .fraction]]

/-- RFC 3339 up to the offset, with blanks between the parts and short fields allowed. -/
def relaxedLayout : List Item :=
  [.loose .year, .blanks, .mark '-', .loose .month, .blanks, .mark '-', .loose .day, .oneOf ['t', 'T', ' '],
   .loose .hour, .blanks, .mark ':', .loose .minute, .blanks, .mark ':', .loose .second, .fraction, .blanks]

/-- A colon, which has to be there. -/
def dropColon : List Char → Except ReadError (List Char)
  | [] => .error .tooShort
  | c :: s => if c = ':' then .ok s else .error .invalid

/-- Colons and blanks, as many as there are. -/
def dropColonsAndBlanks (s : List Char) : Except ReadError (List Char) :=
  .ok (s.dropWhile fun c => c == ':' || isBlank c)

/-- RFC 3339. -/
def readStrict (s : List Char) : Except ReadError Instant := do
  let p ← readItems strictLayout {} s
  let o ← readOffset dropColon p.2
  if o.2.isEmpty then p.1.instant? o.1 else throw .tooLong

/-- A layout without an offset, as Coordinated Universal Time. -/
def readPlain (layout : List Item) (s : List Char) : Except ReadError Instant := do
  let p ← readItems layout {} s
  if p.2.isEmpty then p.1.instant? 0 else throw .tooLong

/-- The offset of the relaxed reading: `UTC` in any case of letters, or an offset whose hours and minutes stand
    apart by any colons and blanks. -/
def readRelaxedOffset (s : List Char) : Except ReadError (Int × List Char) :=
  if equalFold (s.take 3) ['u', 't', 'c'] then .ok (0, s.drop 3) else readOffset dropColonsAndBlanks s

/-- RFC 3339, relaxed. -/
def readRelaxed (s : List Char) : Except ReadError Instant := do
  let p ← readItems relaxedLayout {} s
  let o ← readRelaxedOffset p.2
  if (trimStart o.2).isEmpty then p.1.instant? o.1 else throw .tooLong

/-- The first success of a list of readings. -/
def firstReading (readings : List (List Char → Except ReadError Instant)) (s : List Char) : Option Instant :=
  readings.findSome? fun read => (read s).toOption

/-- The instant that a timestamp of the backend names. -/
def readTimestamp (raw : String) : Option Instant :=
  let s := trim raw.toList
  if s.isEmpty then none else firstReading (readStrict :: plainLayouts.map readPlain) s

/-! ## Writing -/

/-- A year: four digits from 0 to 9999, else a sign and at least four digits. -/
def yearText (y : Int) : List Char :=
  if 0 ≤ y && y ≤ 9999 then paddedDigits 4 y.toNat
  else
    let n := y.natAbs
    (if y < 0 then '-' else '+') :: (if n < 10000 then paddedDigits 4 n else numeral n)

/-- The fraction of a second with 0, 3, 6 or 9 digits, the fewest that are exact. -/
def fractionText (nanos : Nat) : List Char :=
  if nanos = 0 then []
  else if nanos % 1000000 = 0 then '.' :: paddedDigits 3 (nanos / 1000000)
  else if nanos % 1000 = 0 then '.' :: paddedDigits 6 (nanos / 1000)
  else '.' :: paddedDigits 9 nanos

/-- `YYYY-MM-DD`. -/
def Date.text (d : Date) : List Char :=
  yearText d.year ++ '-' :: paddedDigits 2 d.month ++ '-' :: paddedDigits 2 d.day

/-- `YYYY-MM-DDThh:mm:ss` and the fraction. -/
def CivilTime.text (c : CivilTime) : List Char :=
  c.date.text ++ 'T' :: paddedDigits 2 c.hour ++ ':' :: paddedDigits 2 c.minute ++
    ':' :: paddedDigits 2 c.shownSecond ++ fractionText (c.nanos % 1000000000)

/-- The instant in Coordinated Universal Time, `+00:00` at its end. -/
def Instant.rfc3339 (i : Instant) : String := .ofList ((i.civil 0).text ++ ['+', '0', '0', ':', '0', '0'])

/-- The instant in Coordinated Universal Time, `Z` at its end. -/
def Instant.rfc3339Z (i : Instant) : String := .ofList ((i.civil 0).text ++ ['Z'])

end ClusterPanel.Time
