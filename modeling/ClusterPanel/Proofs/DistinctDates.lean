import ClusterPanel.Proofs.TimestampSpellings

/- Dates told apart by their texts. The parts of a shown date can be taken off its front one after the other, each in
   one way only: month and day (`monthAndDayText_append_inj`), the year with or without a sign
   (`yearText_append_inj`), the hands of the clock (`clockHands_append_inj`). So an absolute time shows which second it
   is and a short date which minute, as far as the clock at the offset goes (`civil_second_iff`, `civil_minute_iff`);
   and a short date without a year is none with one (`shortText_ne_shortTextWithYear`). -/
namespace ClusterPanel.Time

open Text

/-! ## Numerals in front of a text -/

section Numerals

variable {s t : List Char}

/-- A run of digits is known from the text that it stands in front of. -/
theorem digits_append_inj {ds es : List Char} (hd : ∀ c ∈ ds, isDigit c = true) (he : ∀ c ∈ es, isDigit c = true)
    (hs : NoDigitFirst s) (ht : NoDigitFirst t) (h : ds ++ s = es ++ t) : ds = es ∧ s = t := by
  have hrun {ds r : List Char} (hd : ∀ c ∈ ds, isDigit c = true) (hr : NoDigitFirst r) :
      (ds ++ r).takeWhile isDigit = ds := by
    rw [List.takeWhile_append_of_pos hd]
    cases r with
    | nil => exact List.append_nil ds
    | cons c r => simp [hr c rfl]
  have hds : ds = es := by rw [← hrun hd hs, h, hrun he ht]
  subst hds
  exact ⟨rfl, List.append_cancel_left h⟩

theorem numeral_append_inj {m n : Nat} (hs : NoDigitFirst s) (ht : NoDigitFirst t)
    (h : numeral m ++ s = numeral n ++ t) : m = n ∧ s = t := by
  obtain ⟨hdigits, hrest⟩ :=
    digits_append_inj (fun c hc => isDigit_of_mem_numeral hc) (fun c hc => isDigit_of_mem_numeral hc) hs ht h
  have hvalue := congrArg decimalValue hdigits
  rw [decimalValue_numeral, decimalValue_numeral] at hvalue
  exact ⟨hvalue, hrest⟩

theorem paddedDigits_append_inj {w m n : Nat} (hm : m < Nat.pow 10 w) (hn : n < Nat.pow 10 w)
    (h : paddedDigits w m ++ s = paddedDigits w n ++ t) : m = n ∧ s = t := by
  obtain ⟨hdigits, hrest⟩ := List.append_inj h (by rw [length_paddedDigits, length_paddedDigits])
  have hvalue := congrArg decimalValue hdigits
  rw [decimalValue_paddedDigits, decimalValue_paddedDigits, Nat.mod_eq_of_lt hm, Nat.mod_eq_of_lt hn] at hvalue
  exact ⟨hvalue, hrest⟩

/-- A year is read off the front of its text, so the text tells the year. -/
theorem yearText_append_inj {y z : Int} (hs : NoDigitFirst s) (ht : NoDigitFirst t)
    (h : yearText y ++ s = yearText z ++ t) : y = z ∧ s = t := by
  have hread := readSigned_yearText y hs
  rw [h, readSigned_yearText z ht] at hread
  obtain ⟨hyear, hrest⟩ := Prod.mk.inj (Except.ok.inj hread)
  exact ⟨hyear.symm, hrest.symm⟩

end Numerals

/-! ## Month and day -/

theorem monthName_inj {m n : Nat} (hm : 1 ≤ m ∧ m ≤ 12) (hn : 1 ≤ n ∧ n ≤ 12) (h : monthName m = monthName n) :
    m = n := by
  have hall : ∀ a < 13, ∀ b < 13, 1 ≤ a → 1 ≤ b → monthName a = monthName b → a = b := by decide
  exact hall m (by omega) n (by omega) hm.1 hn.1 h

theorem monthAndDayText_append_inj {d e : Date} {s t : List Char} (hd : d.IsValid) (he : e.IsValid)
    (hs : NoDigitFirst s) (ht : NoDigitFirst t) (h : d.monthAndDayText ++ s = e.monthAndDayText ++ t) :
    d.month = e.month ∧ d.day = e.day ∧ s = t := by
  unfold Date.monthAndDayText at h
  rw [List.append_assoc, List.append_assoc] at h
  obtain ⟨hmonth, h⟩ := List.append_inj h (by rw [length_monthName, length_monthName])
  obtain ⟨hday, hrest⟩ := numeral_append_inj hs ht (List.cons.inj h).2
  exact ⟨monthName_inj ⟨hd.month_pos, hd.bounds.1⟩ ⟨he.month_pos, he.bounds.1⟩ hmonth, hday, hrest⟩

/-! ## The clock -/

theorem clockHour_lt (hour : Nat) : clockHour hour < 100 := by
  unfold clockHour
  split <;> omega

/-- Twelve hours and the half of the day tell the hour. -/
theorem clockHour_inj {a b : Nat} (ha : a < 24) (hb : b < 24) (hclock : clockHour a = clockHour b)
    (hhalf : halfDay a = halfDay b) : a = b := by
  have hall : ∀ a < 24, ∀ b < 24, clockHour a = clockHour b → halfDay a = halfDay b → a = b := by decide
  exact hall a ha b hb hclock hhalf

/-- The hands of a clock are known from the text that they stand in front of. -/
theorem clockHands_append_inj {a b m n : Nat} {s t : List Char} (hm : m < 100) (hn : n < 100)
    (h : paddedDigits 2 (clockHour a) ++ ':' :: (paddedDigits 2 m ++ s) =
      paddedDigits 2 (clockHour b) ++ ':' :: (paddedDigits 2 n ++ t)) :
    clockHour a = clockHour b ∧ m = n ∧ s = t := by
  obtain ⟨hhour, h⟩ := paddedDigits_append_inj (w := 2) (clockHour_lt _) (clockHour_lt _) h
  exact ⟨hhour, paddedDigits_append_inj (w := 2) hm hn (List.cons.inj h).2⟩

section Civil

variable {c d : CivilTime}

theorem minuteText_inj (hc : c.IsValid) (hd : d.IsValid) (h : c.minuteText = d.minuteText) :
    c.hour = d.hour ∧ c.minute = d.minute := by
  obtain ⟨-, hch, hcm, -⟩ := hc
  obtain ⟨-, hdh, hdm, -⟩ := hd
  unfold CivilTime.minuteText at h
  simp only [List.append_assoc, List.cons_append] at h
  obtain ⟨hclock, hminute, hhalf⟩ := clockHands_append_inj (by omega) (by omega) h
  exact ⟨clockHour_inj hch hdh hclock (List.cons.inj hhalf).2, hminute⟩

/-- Outside of leap seconds the second that is shown is the second that it is. -/
theorem shownSecond_of_nanos (hn : c.nanos < 1000000000) : c.shownSecond = c.second := by
  unfold CivilTime.shownSecond
  omega

theorem secondText_inj (hc : c.IsValid) (hd : d.IsValid) (hcn : c.nanos < 1000000000) (hdn : d.nanos < 1000000000)
    (h : c.secondText = d.secondText) : c.hour = d.hour ∧ c.minute = d.minute ∧ c.second = d.second := by
  obtain ⟨-, hch, hcm, hcs⟩ := hc
  obtain ⟨-, hdh, hdm, hds⟩ := hd
  unfold CivilTime.secondText at h
  rw [shownSecond_of_nanos hcn, shownSecond_of_nanos hdn] at h
  simp only [List.append_assoc, List.cons_append] at h
  obtain ⟨hclock, hminute, h⟩ := clockHands_append_inj (by omega) (by omega) h
  obtain ⟨hsecond, hhalf⟩ := paddedDigits_append_inj (w := 2) (show _ < 100 by omega) (show _ < 100 by omega)
    (List.cons.inj h).2
  exact ⟨clockHour_inj hch hdh hclock (List.cons.inj hhalf).2, hminute, hsecond⟩

/-! ## Dates with a clock -/

theorem date_eq {a b : Date} (hy : a.year = b.year) (hm : a.month = b.month) (hd : a.day = b.day) : a = b := by
  cases a
  cases b
  simp only at hy hm hd
  rw [hy, hm, hd]

theorem absoluteText_inj (hc : c.IsValid) (hd : d.IsValid) (hcn : c.nanos < 1000000000) (hdn : d.nanos < 1000000000)
    (h : c.absoluteText = d.absoluteText) :
    c.date = d.date ∧ c.hour = d.hour ∧ c.minute = d.minute ∧ c.second = d.second := by
  unfold CivilTime.absoluteText at h
  simp only [List.append_assoc, List.cons_append] at h
  obtain ⟨hmonth, hday, h⟩ := monthAndDayText_append_inj hc.1 hd.1 (noDigitFirst_cons (by decide))
    (noDigitFirst_cons (by decide)) h
  obtain ⟨hyear, h⟩ := yearText_append_inj (noDigitFirst_cons (by decide)) (noDigitFirst_cons (by decide))
    (List.cons.inj (List.cons.inj h).2).2
  exact ⟨date_eq hyear hmonth hday, secondText_inj hc hd hcn hdn (List.cons.inj (List.cons.inj h).2).2⟩

theorem shortText_inj (hc : c.IsValid) (hd : d.IsValid) (h : c.shortText = d.shortText) :
    c.date.month = d.date.month ∧ c.date.day = d.date.day ∧ c.hour = d.hour ∧ c.minute = d.minute := by
  unfold CivilTime.shortText at h
  obtain ⟨hmonth, hday, h⟩ := monthAndDayText_append_inj hc.1 hd.1 (noDigitFirst_cons (by decide))
    (noDigitFirst_cons (by decide)) h
  exact ⟨hmonth, hday, minuteText_inj hc hd (List.cons.inj (List.cons.inj h).2).2⟩

theorem shortTextWithYear_inj (hc : c.IsValid) (hd : d.IsValid) (h : c.shortTextWithYear = d.shortTextWithYear) :
    c.date = d.date ∧ c.hour = d.hour ∧ c.minute = d.minute := by
  unfold CivilTime.shortTextWithYear at h
  simp only [List.append_assoc, List.cons_append] at h
  obtain ⟨hmonth, hday, h⟩ := monthAndDayText_append_inj hc.1 hd.1 (noDigitFirst_cons (by decide))
    (noDigitFirst_cons (by decide)) h
  obtain ⟨hyear, h⟩ := yearText_append_inj (noDigitFirst_cons (by decide)) (noDigitFirst_cons (by decide))
    (List.cons.inj (List.cons.inj h).2).2
  exact ⟨date_eq hyear hmonth hday, minuteText_inj hc hd (List.cons.inj (List.cons.inj h).2).2⟩

/-- Where the year may stand there is an hour if it does not: two digits, and no comma behind them. -/
theorem shortText_ne_shortTextWithYear (hc : c.IsValid) (hd : d.IsValid) : c.shortText ≠ d.shortTextWithYear := by
  intro h
  unfold CivilTime.shortText CivilTime.shortTextWithYear at h
  simp only [List.append_assoc, List.cons_append] at h
  obtain ⟨-, -, h⟩ := monthAndDayText_append_inj hc.1 hd.1 (noDigitFirst_cons (by decide))
    (noDigitFirst_cons (by decide)) h
  have h := (List.cons.inj (List.cons.inj h).2).2
  unfold CivilTime.minuteText at h
  simp only [List.append_assoc, List.cons_append] at h
  have hdigits : ∀ x ∈ paddedDigits 2 (clockHour c.hour), isDigit x = true :=
    fun x hx => isDigit_of_mem_paddedDigits hx
  have hne : paddedDigits 2 (clockHour c.hour) ≠ [] := List.ne_nil_of_length_pos (by rw [length_paddedDigits]; decide)
  have hyear := readSigned_yearText d.date.year (r := ',' :: ' ' :: d.minuteText) (noDigitFirst_cons (by decide))
  unfold CivilTime.minuteText at hyear
  simp only [List.append_assoc, List.cons_append] at hyear
  rw [← h, trimStart_digits hdigits hne, readSigned_digits hdigits hne (by rw [length_paddedDigits]; decide)
    (noDigitFirst_cons (by decide))] at hyear
  have hmark := (Prod.mk.inj (Except.ok.inj hyear)).2
  exact absurd (List.cons.inj hmark).1 (by decide)

end Civil

/-! ## Instants -/

section Instants

variable {i j : Instant}

/-- The seconds of an instant from its civil time. -/
theorem seconds_of_civil (i : Instant) (zone : Int) :
    i.seconds + zone = (i.civil zone).date.dayNumber * 86400 +
      (((i.civil zone).hour * 3600 + (i.civil zone).minute * 60 + (i.civil zone).second : Nat) : Int) := by
  have hseconds := congrArg Instant.seconds (instant_civil zone i)
  simp only [CivilTime.instant] at hseconds
  omega

/-- Calendar and clock show the same, down to the second, within one second only. -/
theorem civil_second_iff (i j : Instant) (zone : Int) :
    ((i.civil zone).date = (j.civil zone).date ∧ (i.civil zone).hour = (j.civil zone).hour ∧
      (i.civil zone).minute = (j.civil zone).minute ∧ (i.civil zone).second = (j.civil zone).second) ↔
      i.seconds = j.seconds := by
  constructor
  · rintro ⟨hdate, hhour, hminute, hsecond⟩
    have hi := seconds_of_civil i zone
    rw [hdate, hhour, hminute, hsecond, ← seconds_of_civil j zone] at hi
    omega
  · intro h
    simp only [Instant.civil, h, and_self]

/-- Down to the minute, they show the same within one minute of the zone only. -/
theorem civil_minute_iff (i j : Instant) (zone : Int) :
    ((i.civil zone).date = (j.civil zone).date ∧ (i.civil zone).hour = (j.civil zone).hour ∧
      (i.civil zone).minute = (j.civil zone).minute) ↔ (i.seconds + zone) / 60 = (j.seconds + zone) / 60 := by
  constructor
  · rintro ⟨hdate, hhour, hminute⟩
    have hi := seconds_of_civil i zone
    have hj := seconds_of_civil j zone
    have his := (isValid_civil zone i).2.2.2
    have hjs := (isValid_civil zone j).2.2.2
    rw [hdate, hhour, hminute] at hi
    omega
  · intro h
    have hday : (i.seconds + zone) / 86400 = (j.seconds + zone) / 86400 := by omega
    have hrest : ((i.seconds + zone) % 86400).toNat / 60 = ((j.seconds + zone) % 86400).toNat / 60 := by omega
    refine ⟨congrArg Date.ofDayNumber hday, ?_, ?_⟩
    · show ((i.seconds + zone) % 86400).toNat / 3600 = ((j.seconds + zone) % 86400).toNat / 3600
      omega
    · show ((i.seconds + zone) % 86400).toNat / 60 % 60 = ((j.seconds + zone) % 86400).toNat / 60 % 60
      rw [hrest]

end Instants

/-! ## Timestamps -/

section Timestamps

variable {s t : String} {i j : Instant}

theorem showAbsolute_of_read (hs : readTimestamp s = some i) (hi : i.isUnset = false) (zone : Int) :
    showAbsolute (some s) zone = .ofList (i.civil zone).absoluteText := by
  simp only [showAbsolute, resolve_of_readTimestamp hs, hi, Bool.false_eq_true, if_false]

theorem showShortDate_of_read (hs : readTimestamp s = some i) (hi : i.isUnset = false) (now : Instant) (zone : Int) :
    showShortDate (some s) now zone = .ofList
      (if (i.civil zone).date.year = (now.civil zone).date.year then (i.civil zone).shortText
        else (i.civil zone).shortTextWithYear) := by
  simp only [showShortDate, resolve_of_readTimestamp hs, hi, Bool.false_eq_true, if_false]

theorem showAbsolute_eq_iff (hs : readTimestamp s = some i) (ht : readTimestamp t = some j) (hi : i.isUnset = false)
    (hj : j.isUnset = false) (hin : i.nanos < 1000000000) (hjn : j.nanos < 1000000000) (zone : Int) :
    showAbsolute (some s) zone = showAbsolute (some t) zone ↔ i.seconds = j.seconds := by
  rw [showAbsolute_of_read hs hi, showAbsolute_of_read ht hj, String.ofList_inj, ← civil_second_iff i j zone]
  constructor
  · exact absoluteText_inj (isValid_civil zone i) (isValid_civil zone j) hin hjn
  · rintro ⟨hdate, hhour, hminute, hsecond⟩
    have hshown : (i.civil zone).shownSecond = (j.civil zone).shownSecond := by
      rw [shownSecond_of_nanos hin, shownSecond_of_nanos hjn, hsecond]
    simp only [CivilTime.absoluteText, CivilTime.secondText, hdate, hhour, hminute, hshown]

theorem showShortDate_eq_iff (hs : readTimestamp s = some i) (ht : readTimestamp t = some j) (hi : i.isUnset = false)
    (hj : j.isUnset = false) (now : Instant) (zone : Int) :
    showShortDate (some s) now zone = showShortDate (some t) now zone ↔
      (i.seconds + zone) / 60 = (j.seconds + zone) / 60 := by
  have hiv := isValid_civil zone i
  have hjv := isValid_civil zone j
  rw [showShortDate_of_read hs hi, showShortDate_of_read ht hj, String.ofList_inj, ← civil_minute_iff i j zone]
  constructor
  · intro h
    split at h
    · next hiyear =>
      split at h
      · next hjyear =>
        obtain ⟨hmonth, hday, hclock⟩ := shortText_inj hiv hjv h
        exact ⟨date_eq (hiyear.trans hjyear.symm) hmonth hday, hclock⟩
      · exact absurd h (shortText_ne_shortTextWithYear hiv hjv)
    · split at h
      · exact absurd h.symm (shortText_ne_shortTextWithYear hjv hiv)
      · exact shortTextWithYear_inj hiv hjv h
  · rintro ⟨hdate, hhour, hminute⟩
    simp only [CivilTime.shortText, CivilTime.shortTextWithYear, CivilTime.minuteText, hdate, hhour, hminute]

/-- Dates are unambiguous. Let two timestamps be read as instants that are set and no leap seconds. They are shown as
    the same absolute time exactly when they lie in the same second, and as the same short date exactly when they lie
    in the same minute of the zone, and so of the same year; and a short date is the one without a year exactly when
    the year is the year that it is now in the zone. -/
theorem dates_unambiguous (hs : readTimestamp s = some i) (ht : readTimestamp t = some j) (hi : i.isUnset = false)
    (hj : j.isUnset = false) (hin : i.nanos < 1000000000) (hjn : j.nanos < 1000000000) (now : Instant) (zone : Int) :
    (showAbsolute (some s) zone = showAbsolute (some t) zone ↔ i.seconds = j.seconds) ∧
      (showShortDate (some s) now zone = showShortDate (some t) now zone ↔
        (i.seconds + zone) / 60 = (j.seconds + zone) / 60) ∧
      (showShortDate (some s) now zone = .ofList (i.civil zone).shortText ↔
        (i.civil zone).date.year = (now.civil zone).date.year) ∧
      (showShortDate (some s) now zone = .ofList (i.civil zone).shortTextWithYear ↔
        (i.civil zone).date.year ≠ (now.civil zone).date.year) := by
  have hiv := isValid_civil zone i
  have hne := shortText_ne_shortTextWithYear hiv hiv
  refine ⟨showAbsolute_eq_iff hs ht hi hj hin hjn zone, showShortDate_eq_iff hs ht hi hj now zone, ?_, ?_⟩
  · rw [showShortDate_of_read hs hi, String.ofList_inj]
    split
    · next hyear => exact iff_of_true rfl hyear
    · next hyear => exact iff_of_false hne.symm hyear
  · rw [showShortDate_of_read hs hi, String.ofList_inj]
    split
    · next hyear => exact iff_of_false hne (not_not_intro hyear)
    · next hyear => exact iff_of_true rfl hyear

/-- A second before midnight in the year zero and at midnight of the next day, seven hours to the east. -/
theorem dates_unambiguous_midnight :
    let s := "0000-12-31T16:59:59.9Z"
    let t := "0001-01-01 00:00:00+07:00"
    let now : Instant := ⟨-62135596800, 0⟩
    showAbsolute (some s) 25200 ≠ showAbsolute (some t) 25200 ∧
      showShortDate (some s) now 25200 ≠ showShortDate (some t) now 25200 ∧
      showShortDate (some t) now 25200 = "Jan 1, 12:00 AM" ∧
      showShortDate (some s) now 25200 = "Dec 31, 0000, 11:59 PM" := by
  intro s t now
  let i : Instant := ⟨-62135622001, 900000000⟩
  let j : Instant := ⟨-62135622000, 0⟩
  have hs : readTimestamp s = some i := by decide +kernel
  have ht : readTimestamp t = some j := by decide +kernel
  obtain ⟨habsolute, hshort, -, hyear⟩ := dates_unambiguous hs ht (by decide) (by decide) (by decide) (by decide) now 25200
  obtain ⟨-, -, hnoYear, -⟩ := dates_unambiguous ht hs (by decide) (by decide) (by decide) (by decide) now 25200
  have hi : (i.civil 25200).date.year ≠ (now.civil 25200).date.year := by decide
  have hj : (j.civil 25200).date.year = (now.civil 25200).date.year := by decide
  refine ⟨mt habsolute.1 (by decide), mt hshort.1 (by decide), ?_, ?_⟩
  · rw [hnoYear.2 hj]
    decide +kernel
  · rw [hyear.2 hi]
    decide +kernel

end Timestamps

end ClusterPanel.Time
