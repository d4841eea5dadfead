import ClusterPanel.Time.Calendar

/- Instants and the civil times that clocks show for them. An instant counts seconds and nanoseconds from
   1970-01-01T00:00:00Z; a leap second is the second before it with a nanosecond count of 10^9 or more. An
   instant is shown at an offset in seconds east of Greenwich (`Instant.civil`); `CivilTime.instant` takes a
   civil time at an offset back to its instant, and the two are inverse. -/
namespace ClusterPanel.Time

/-- A moment, as time passed since 1970-01-01T00:00:00Z. -/
structure Instant where
  seconds : Int
  nanos : Nat
deriving DecidableEq, Repr, Inhabited

/-- What calendar and clock show. In a leap second, `second` stays at the second before and `nanos` goes on. -/
structure CivilTime where
  date : Date
  hour : Nat
  minute : Nat
  second : Nat
  nanos : Nat
deriving DecidableEq, Repr, Inhabited

/-- The civil time of an instant at an offset in seconds east. -/
def Instant.civil (offset : Int) (i : Instant) : CivilTime :=
  let shifted := i.seconds + offset
  let rest := (shifted % 86400).toNat
  ⟨.ofDayNumber (shifted / 86400), rest / 3600, rest / 60 % 60, rest % 60, i.nanos⟩

/-- The instant of a civil time at an offset in seconds east. -/
def CivilTime.instant (offset : Int) (c : CivilTime) : Instant :=
  ⟨c.date.dayNumber * 86400 + ((c.hour * 3600 + c.minute * 60 + c.second : Nat) : Int) - offset, c.nanos⟩

/-- The second that a clock shows: 60 in a leap second that ends a minute. -/
def CivilTime.shownSecond (c : CivilTime) : Nat := c.second + c.nanos / 1000000000

/-- The years that dates may have. -/
def minYear : Int := -262143
def maxYear : Int := 262142

/-- The instant lies in the years that dates may have. -/
def Instant.inRange (i : Instant) : Bool :=
  yearStart minYear * 86400 ≤ i.seconds && i.seconds < yearStart (maxYear + 1) * 86400

/-- The zero time, 0001-01-01T00:00:00Z, which stands for a time that was never set. -/
def Instant.unset : Instant := ⟨-62135596800, 0⟩

/-- Whether the instant is the zero time. -/
def Instant.isUnset (i : Instant) : Bool := i == .unset

/-- `i` is not after `j`. -/
def Instant.le (i j : Instant) : Bool := i.seconds < j.seconds || (i.seconds == j.seconds && i.nanos ≤ j.nanos)

/-- Whole seconds from `i` to `now`, fractions dropped toward zero. Days count 86400 seconds; a leap second on
    the day of one of the two counts when the other is later (or earlier) on the clock. -/
def Instant.secondsSince (now i : Instant) : Int :=
  let a := now.seconds % 86400
  let b := i.seconds % 86400
  let leap : Int :=
    if a > b && i.nanos ≥ 1000000000 then 1 else if a < b && now.nanos ≥ 1000000000 then -1 else 0
  (((now.seconds - i.seconds + leap) * 1000000000 + ((now.nanos : Int) - i.nanos)).tdiv 1000000000)

/-- The instant `n > 0` seconds later; a leap second is left by it. -/
def Instant.addSeconds (i : Instant) (n : Int) : Instant := ⟨i.seconds + n, i.nanos % 1000000000⟩

/-- A civil time that a clock can show. -/
def CivilTime.IsValid (c : CivilTime) : Prop := c.date.IsValid ∧ c.hour < 24 ∧ c.minute < 60 ∧ c.second < 60

instance (c : CivilTime) : Decidable c.IsValid := inferInstanceAs (Decidable (_ ∧ _))

theorem isValid_civil (offset : Int) (i : Instant) : (i.civil offset).IsValid := by
  refine ⟨(dayNumber_ofDayNumber _).2, ?_, ?_, ?_⟩ <;> simp only [Instant.civil] <;> omega

/-- Every instant is that of its civil time. -/
theorem instant_civil (offset : Int) (i : Instant) : (i.civil offset).instant offset = i := by
  cases i with
  | mk s n =>
    simp only [CivilTime.instant, Instant.civil, (dayNumber_ofDayNumber _).1, Instant.mk.injEq, and_true]
    omega

/-- Every civil time that a clock can show is that of its instant. -/
theorem civil_instant {offset : Int} {c : CivilTime} (h : c.IsValid) : (c.instant offset).civil offset = c := by
  obtain ⟨hd, hh, hm, hs⟩ := h
  obtain ⟨d, hour, minute, second, nanos⟩ := c
  simp only at hd hh hm hs
  simp only [CivilTime.instant, Instant.civil, CivilTime.mk.injEq, and_true]
  have e : d.dayNumber * 86400 + ((hour * 3600 + minute * 60 + second : Nat) : Int) - offset + offset =
      d.dayNumber * 86400 + ((hour * 3600 + minute * 60 + second : Nat) : Int) := by omega
  rw [e]
  have hdiv : (d.dayNumber * 86400 + ((hour * 3600 + minute * 60 + second : Nat) : Int)) / 86400 = d.dayNumber := by
    omega
  rw [hdiv, ofDayNumber_dayNumber hd]
  refine ⟨rfl, ?_, ?_, ?_⟩ <;> omega

end ClusterPanel.Time
