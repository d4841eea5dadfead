import ClusterPanel.Number.Total

/- The Gregorian calendar over all of the integers, year zero and the years before it included. A date and its
   day number (days since 1970-01-01) are two names of one thing: `Date.ofDayNumber` finds the date of a day and
   `Date.dayNumber` the day of a date. The year of a day is found by an estimate of the average year and one
   correction; what makes a year `y` the right one is `yearStart y ≤ n < yearStart (y + 1)`. -/
namespace ClusterPanel.Time

/-- Every fourth year, but of the full centuries only every fourth. -/
def isLeapYear (y : Int) : Bool := y % 4 == 0 && (y % 100 != 0 || y % 400 == 0)

/-- The day number of the first of January of year `y`. -/
def yearStart (y : Int) : Int := 365 * y + (y + 3) / 4 - (y + 99) / 100 + (y + 399) / 400 - 719528

def monthLengths (leap : Bool) : List Nat :=
  [31, if leap then 29 else 28, 31, 30, 31, 30, 31, 31, 30, 31, 30, 31]

/-- A day of the calendar. A date of the calendar has a month from 1 to 12 and a day that the month has. -/
structure Date where
  year : Int
  month : Nat
  day : Nat
deriving DecidableEq, Repr, Inhabited

/-- The length of a month of a year; 0 for a month that no year has. -/
def monthLength (y : Int) (m : Nat) : Nat := if m = 0 then 0 else (monthLengths (isLeapYear y)).getD (m - 1) 0

/-- The date stands in the calendar. -/
def Date.IsValid (d : Date) : Prop := 1 ≤ d.day ∧ d.day ≤ monthLength d.year d.month

instance (d : Date) : Decidable d.IsValid := inferInstanceAs (Decidable (_ ∧ _))

/-- The number of days before month `m` in a year whose months have the lengths `ls`. -/
def daysBefore (ls : List Nat) (m : Nat) : Nat := total (ls.take (m - 1))

/-- Days since 1970-01-01. -/
def Date.dayNumber (d : Date) : Int :=
  yearStart d.year + (daysBefore (monthLengths (isLeapYear d.year)) d.month : Int) + (d.day : Int) - 1

/-- The year in which the day lies. -/
def yearOf (n : Int) : Int :=
  let y := (n + 719528) * 400 / 146097
  if n < yearStart y then y - 1 else if yearStart (y + 1) ≤ n then y + 1 else y

/-- The month, counted from `m`, in which day `n` (counted from zero) lies, and its place in that month, counted
    from one. -/
def monthAndDay (m : Nat) : List Nat → Nat → Nat × Nat
  | [], n => (m, n + 1)
  | l :: ls, n => if n < l then (m, n + 1) else monthAndDay (m + 1) ls (n - l)

def Date.ofDayNumber (n : Int) : Date :=
  let y := yearOf n
  let md := monthAndDay 1 (monthLengths (isLeapYear y)) (n - yearStart y).toNat
  ⟨y, md.1, md.2⟩

/-! ## The two directions are inverse -/

theorem yearStart_succ (y : Int) : yearStart (y + 1) = yearStart y + if isLeapYear y then 366 else 365 := by
  by_cases h : isLeapYear y = true
  · simp only [h, if_true]
    simp only [isLeapYear, Bool.and_eq_true, Bool.or_eq_true, beq_iff_eq, bne_iff_ne] at h
    simp only [yearStart]
    omega
  · simp only [h]
    simp only [isLeapYear, Bool.and_eq_true, Bool.or_eq_true, beq_iff_eq, bne_iff_ne] at h
    simp only [yearStart]
    simp only [Bool.false_eq_true, if_false]
    omega

theorem yearStart_mono {a b : Int} (h : a ≤ b) : yearStart a ≤ yearStart b := by
  simp only [yearStart]; omega

/-- The year found holds the day. -/
theorem yearOf_bounds (n : Int) : yearStart (yearOf n) ≤ n ∧ n < yearStart (yearOf n + 1) := by
  simp only [yearOf]
  generalize hy : (n + 719528) * 400 / 146097 = y
  split
  · rw [Int.sub_add_cancel]
    simp only [yearStart] at *
    omega
  · split
    · simp only [yearStart] at *; omega
    · omega

/-- No other year holds it. -/
theorem yearOf_eq {n y : Int} (h₁ : yearStart y ≤ n) (h₂ : n < yearStart (y + 1)) : yearOf n = y := by
  obtain ⟨a, b⟩ := yearOf_bounds n
  rcases Int.lt_trichotomy (yearOf n) y with h | h | h
  · have := yearStart_mono (show yearOf n + 1 ≤ y by omega); omega
  · exact h
  · have := yearStart_mono (show y + 1 ≤ yearOf n by omega); omega

theorem total_monthLengths (leap : Bool) : total (monthLengths leap) = if leap then 366 else 365 := by
  cases leap <;> rfl

/-- Splitting a day of the year into month and day loses nothing. -/
theorem daysBefore_monthAndDay (ls : List Nat) (m n : Nat) (h : n < total ls) :
    let md := monthAndDay m ls n
    m ≤ md.1 ∧ total (ls.take (md.1 - m)) + md.2 = n + 1 ∧ 1 ≤ md.2 ∧ md.2 ≤ ls.getD (md.1 - m) 0 := by
  induction ls generalizing m n with
  | nil => simp at h
  | cons l ls ih =>
    simp only [monthAndDay]
    split
    · simp; omega
    · obtain ⟨h₁, h₂, h₃, h₄⟩ := ih (m + 1) (n - l) (by simp at h; omega)
      generalize hp : monthAndDay (m + 1) ls (n - l) = md at *
      obtain ⟨k, hk⟩ : ∃ k, md.1 - m = k + 1 := ⟨md.1 - m - 1, by omega⟩
      have hk' : md.1 - (m + 1) = k := by omega
      rw [hk'] at h₂ h₄
      simp only [hk, List.take_succ_cons, total_cons, List.getD_cons_succ]
      omega

theorem monthAndDay_daysBefore (ls : List Nat) (m k d : Nat) (hd : 1 ≤ d) (hl : d ≤ ls.getD k 0) :
    monthAndDay m ls (total (ls.take k) + d - 1) = (m + k, d) := by
  induction ls generalizing m k with
  | nil => simp at hl; omega
  | cons l ls ih =>
    cases k with
    | zero =>
      simp only [List.getD_cons_zero] at hl
      rw [monthAndDay, if_pos (by simp; omega)]
      simp; omega
    | succ k =>
      simp only [List.getD_cons_succ] at hl
      have hs : total ((l :: ls).take (k + 1)) + d - 1 - l = total (ls.take k) + d - 1 := by simp; omega
      rw [monthAndDay, if_neg (by simp; omega), hs, ih (m + 1) k hl, show m + 1 + k = m + (k + 1) by omega]

/-- Every day has a date of the calendar, and that date's number is the day's. -/
theorem dayNumber_ofDayNumber (n : Int) :
    (Date.ofDayNumber n).dayNumber = n ∧ (Date.ofDayNumber n).IsValid := by
  obtain ⟨h₁, h₂⟩ := yearOf_bounds n
  rw [yearStart_succ] at h₂
  have hn : (n - yearStart (yearOf n)).toNat < total (monthLengths (isLeapYear (yearOf n))) := by
    rw [total_monthLengths]
    split at h₂
    · next hl => rw [if_pos hl]; omega
    · next hl => rw [if_neg hl]; omega
  have h := daysBefore_monthAndDay _ 1 _ hn
  simp only at h
  obtain ⟨a, b, c, d⟩ := h
  refine ⟨?_, c, ?_⟩
  · simp only [Date.dayNumber, Date.ofDayNumber, daysBefore]
    omega
  · have hm : (Date.ofDayNumber n).month ≠ 0 := Nat.ne_of_gt a
    rw [monthLength, if_neg hm]
    exact d

theorem Date.IsValid.month_pos {d : Date} (h : d.IsValid) : 1 ≤ d.month := by
  obtain ⟨h₁, h₂⟩ := h
  rw [monthLength] at h₂
  split at h₂ <;> omega

/-- A date of the calendar is the date of its number. -/
theorem ofDayNumber_dayNumber {d : Date} (h : d.IsValid) : Date.ofDayNumber d.dayNumber = d := by
  have hm := h.month_pos
  obtain ⟨h1, h2⟩ := h
  rw [monthLength, if_neg (by omega)] at h2
  have key := monthAndDay_daysBefore _ 1 (d.month - 1) d.day h1 h2
  have hs : total ((monthLengths (isLeapYear d.year)).take (d.month - 1)) + d.day ≤
      total (monthLengths (isLeapYear d.year)) := by
    have hlt : d.month - 1 < (monthLengths (isLeapYear d.year)).length := by
      by_cases hx : d.month - 1 < (monthLengths (isLeapYear d.year)).length
      · exact hx
      · rw [List.getD_eq_getElem?_getD, List.getElem?_eq_none (by omega)] at h2
        simp at h2; omega
    have e : total (monthLengths (isLeapYear d.year)) =
        total ((monthLengths (isLeapYear d.year)).take (d.month - 1)) +
          total ((monthLengths (isLeapYear d.year)).drop (d.month - 1)) := by
      rw [← total_append, List.take_append_drop]
    rw [e, List.drop_eq_getElem_cons hlt, total_cons]
    rw [List.getD_eq_getElem?_getD, List.getElem?_eq_getElem hlt] at h2
    simp only [Option.getD_some] at h2
    omega
  rw [total_monthLengths] at hs
  have hy : yearOf d.dayNumber = d.year := by
    apply yearOf_eq
    · simp only [Date.dayNumber]; omega
    · rw [yearStart_succ]
      simp only [Date.dayNumber, daysBefore]
      generalize total ((monthLengths (isLeapYear d.year)).take (d.month - 1)) = k at hs ⊢
      split at hs
      · next hl => rw [if_pos hl]; omega
      · next hl => rw [if_neg hl]; omega
  have ht : (d.dayNumber - yearStart d.year).toNat =
      total ((monthLengths (isLeapYear d.year)).take (d.month - 1)) + d.day - 1 := by
    simp only [Date.dayNumber, daysBefore]; omega
  simp only [Date.ofDayNumber, hy, ht, key]
  rw [show 1 + (d.month - 1) = d.month by omega]

end ClusterPanel.Time
