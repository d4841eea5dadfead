import ClusterPanel.Text.Numeral
import ClusterPanel.Time.Instant

/- Reading civil times by layout. A layout is a list of items, each of which takes something off the front of
   the text: a number field, a fixed mark, blanks or a fraction of a second. Fields check their range as they are
   read; whether the day exists in its month is asked when the reading is turned into an instant
   (`Reading.instant?`). Causes of failure are told apart (`ReadError`), each with its text. -/
namespace ClusterPanel.Time

open Text

inductive ReadError where
  | outOfRange
  | impossible
  | invalid
  | tooShort
  | tooLong
deriving DecidableEq, Repr

def ReadError.message : ReadError → String
  | outOfRange => "input is out of range"
  | impossible => "no possible date and time matching input"
  | invalid => "input contains invalid characters"
  | tooShort => "premature end of input"
  | tooLong => "trailing input"

/-- The number fields of a civil time. -/
inductive Field where
  | year
  | month
  | day
  | hour
  | minute
  | second
deriving DecidableEq, Repr

inductive Item where
  /-- a field of exactly so many digits -/
  | exact (f : Field) (width : Nat)
  /-- a field of at least one digit and at most its usual number, after any blanks; a year may carry a sign and
      then has any number of digits -/
  | loose (f : Field)
  /-- this character -/
  | mark (c : Char)
  /-- one of these characters -/
  | oneOf (cs : List Char)
  /-- any blanks, also none -/
  | blanks
  /-- a point and digits, of which nine count; or nothing -/
  | fraction
deriving DecidableEq, Repr

structure Reading where
  year : Int := 0
  month : Nat := 0
  day : Nat := 0
  hour : Nat := 0
  minute : Nat := 0
  second : Nat := 0
  nanos : Nat := 0
deriving DecidableEq, Repr

/-- The values that a field may have. A year has to fit into 32 bits. -/
def Field.admits : Field → Int → Bool
  | .year, v => -2147483648 ≤ v && v ≤ 2147483647
  | .month, v => 1 ≤ v && v ≤ 12
  | .day, v => 1 ≤ v && v ≤ 31
  | .hour, v => 0 ≤ v && v ≤ 23
  | .minute, v => 0 ≤ v && v ≤ 59
  | .second, v => 0 ≤ v && v ≤ 60

/-- The usual number of digits of a field. -/
def Field.width : Field → Nat
  | .year => 4
  | _ => 2

def Reading.put (r : Reading) (f : Field) (v : Int) : Reading :=
  match f with
  | .year => { r with year := v }
  | .month => { r with month := v.toNat }
  | .day => { r with day := v.toNat }
  | .hour => { r with hour := v.toNat }
  | .minute => { r with minute := v.toNat }
  | .second => { r with second := v.toNat }

def Reading.set (r : Reading) (f : Field) (v : Int) : Except ReadError Reading :=
  if f.admits v then .ok (r.put f v) else .error .outOfRange

/-- A number of at least `min` and at most `max` digits. -/
def readNumber (min max : Nat) (s : List Char) : Except ReadError (Nat × List Char) :=
  let d := takeDigits max s
  if d.1.length < min then .error (if s.length < min then .tooShort else .invalid)
  else .ok (decimalValue d.1, d.2)

/-- A number that may carry a sign; with one, it has any number of digits, without at most `width`. -/
def readSigned (width : Nat) (s : List Char) : Except ReadError (Int × List Char) :=
  match s with
  | '-' :: r => (readNumber 1 r.length r).map fun p => (-(p.1 : Int), p.2)
  | '+' :: r => (readNumber 1 r.length r).map fun p => ((p.1 : Int), p.2)
  | _ => (readNumber 1 width s).map fun p => ((p.1 : Int), p.2)

/-- The digits after the point, scaled to nanoseconds; digits after the ninth are dropped. -/
def readFraction (s : List Char) : Except ReadError (Nat × List Char) :=
  let d := takeDigits 9 s
  if d.1.isEmpty then .error (if s.isEmpty then .tooShort else .invalid)
  else .ok (decimalValue d.1 * Nat.pow 10 (9 - d.1.length), d.2.dropWhile isDigit)

def Item.read (item : Item) (r : Reading) (s : List Char) : Except ReadError (Reading × List Char) :=
  match item with
  | .exact f width => do
    let p ← readNumber width width s
    let r ← r.set f p.1
    pure (r, p.2)
  | .loose .year => do
    let p ← readSigned 4 (trimStart s)
    let r ← r.set .year p.1
    pure (r, p.2)
  | .loose f => do
    let p ← readNumber 1 f.width (trimStart s)
    let r ← r.set f p.1
    pure (r, p.2)
  | .mark c =>
    match s with
    | [] => .error .tooShort
    | d :: s => if d = c then .ok (r, s) else .error .invalid
  | .oneOf cs =>
    match s with
    | [] => .error .tooShort
    | d :: s => if cs.contains d then .ok (r, s) else .error .invalid
  | .blanks => .ok (r, trimStart s)
  | .fraction =>
    match s with
    | '.' :: s => (readFraction s).map fun p => ({ r with nanos := p.1 }, p.2)
    | _ => .ok (r, s)

/-- Reads the items of a layout one after the other. -/
def readItems : List Item → Reading → List Char → Except ReadError (Reading × List Char)
  | [], r, s => .ok (r, s)
  | item :: items, r, s => do
    let p ← item.read r s
    readItems items p.1 p.2

/-- The civil time that was read. A sixtieth second is the leap second after the fifty-ninth. -/
def Reading.civil (r : Reading) : CivilTime :=
  if r.second = 60 then ⟨⟨r.year, r.month, r.day⟩, r.hour, r.minute, 59, r.nanos + 1000000000⟩
  else ⟨⟨r.year, r.month, r.day⟩, r.hour, r.minute, r.second, r.nanos⟩

/-- The instant that was read at an offset in seconds east. The day has to exist, the offset to be less than a
    day, and the instant to lie in the years that dates may have. -/
def Reading.instant? (r : Reading) (offset : Int) : Except ReadError Instant :=
  let c := r.civil
  if ¬c.date.IsValid || c.date.year < minYear || maxYear < c.date.year then .error .outOfRange
  else if offset ≤ -86400 || 86400 ≤ offset then .error .outOfRange
  else if (c.instant offset).inRange then .ok (c.instant offset)
  else .error .impossible

def readTwoDigits (s : List Char) : Except ReadError (Nat × List Char) :=
  match s with
  | [] => .error .tooShort
  | [c] => .error (if c.toNat < 128 then .tooShort else .invalid)
  | c :: d :: r => if isDigit c && isDigit d then .ok (decimalValue [c, d], r) else .error .invalid

/-- An offset: `Z`, or a sign, two digits of hours, what `gap` drops, and two digits of minutes. The minus sign
    may also be U+2212. -/
def readOffset (gap : List Char → Except ReadError (List Char)) (s : List Char) :
    Except ReadError (Int × List Char) :=
  let magnitude (s : List Char) : Except ReadError (Nat × List Char) := do
    let hours ← readTwoDigits s
    let s ← gap hours.2
    let minutes ← readTwoDigits s
    if minutes.1 ≤ 59 then pure (hours.1 * 3600 + minutes.1 * 60, minutes.2) else throw .outOfRange
  match s with
  | [] => .error .tooShort
  | c :: r =>
    if c = 'Z' || c = 'z' then .ok (0, r)
    else if c = '+' then (magnitude r).map fun p => ((p.1 : Int), p.2)
    else if c = '-' || c = '\u2212' then (magnitude r).map fun p => (-(p.1 : Int), p.2)
    else .error .invalid

end ClusterPanel.Time
