import ClusterPanel.Proofs.Timestamps
import ClusterPanel.Time.Display

/- The spellings of an instant. A timestamp may name an instant at any offset of whole minutes, with as many digits of
   its fraction as are exact, and for Coordinated Universal Time also with `Z` or with nothing at all at its end; blanks
   around it do not count. `readTimestamp` tries three layouts in turn: those that come before the right one fail on
   the text, and the right one reads the civil time and its offset, from which the calendar takes it back to the
   instant (`readTimestamp_spelling`). So what is shown of a timestamp depends on the instant alone. -/
namespace ClusterPanel

open Text

namespace Text

/-- Blanks around a text that neither starts nor ends with one are all that is trimmed off. -/
theorem trim_between {before s after : List Char} (hb : ∀ c ∈ before, isBlank c = true)
    (ha : ∀ c ∈ after, isBlank c = true) (hfirst : ∀ c ∈ s.head?, isBlank c = false)
    (hlast : ∀ c ∈ s.getLast?, isBlank c = false) (hs : s ≠ []) : trim (before ++ (s ++ after)) = s := by
  have hstart : trimStart (before ++ (s ++ after)) = s ++ after := by
    cases s with
    | nil => exact absurd rfl hs
    | cons c s =>
      rw [trimStart, List.dropWhile_append_of_pos hb]
      exact trimStart_of_head (hfirst c rfl)
  have hend : trimEnd (s ++ after) = s := by
    rw [trimEnd, List.reverse_append, List.dropWhile_append_of_pos fun c hc => ha c (List.mem_reverse.1 hc)]
    rcases List.eq_nil_or_concat s with rfl | ⟨r, c, rfl⟩
    · exact absurd rfl hs
    · rw [List.concat_eq_append, List.reverse_concat, List.dropWhile_cons_of_neg]
      · simp
      · rw [hlast c (by simp)]
        exact Bool.false_ne_true
  rw [trim, hstart, hend]

end Text

namespace Time

/-! ## Spellings -/

/-- What stands after the time of day: nothing, `Z`, or an offset in minutes, to the west or to the east. -/
inductive Offset where
  | unsaid
  | zulu
  | minutes (west : Bool) (count : Fin 1440)
deriving DecidableEq

/-- The offset in seconds east. -/
def Offset.seconds : Offset → Int
  | unsaid => 0
  | zulu => 0
  | minutes west count => if west then -(count * 60 : Nat) else (count * 60 : Nat)

def Offset.text : Offset → List Char
  | unsaid => []
  | zulu => ['Z']
  | minutes west count =>
    (if west then '-' else '+') :: (paddedDigits 2 (count / 60) ++ ':' :: paddedDigits 2 (count % 60))

/-- How a timestamp is spelled: the blanks around it, whether a space stands in place of the `T`, the number of digits
    of the fraction, and the offset. -/
structure Spelling where
  before : List Char := []
  after : List Char := []
  spaced : Bool := false
  digits : Nat := 0
  offset : Offset
  blank_before : before.all isBlank = true := by decide
  blank_after : after.all isBlank = true := by decide
  digits_le : digits ≤ 9 := by decide

/-- The time of day in full seconds. -/
def CivilTime.clockText (c : CivilTime) : List Char :=
  paddedDigits 2 c.hour ++ ':' :: (paddedDigits 2 c.minute ++ ':' :: paddedDigits 2 c.second)

/-- A civil time, up to its offset. -/
def Spelling.civilText (s : Spelling) (c : CivilTime) : List Char :=
  c.date.text ++ (if s.spaced then ' ' else 'T') :: (c.clockText ++ decimalFraction s.digits c.nanos)

/-- The timestamp of an instant without the blanks around it. -/
def Spelling.core (s : Spelling) (i : Instant) : List Char :=
  s.civilText (i.civil s.offset.seconds) ++ s.offset.text

/-- The timestamp of an instant. -/
def Spelling.text (s : Spelling) (i : Instant) : String := .ofList (s.before ++ (s.core i ++ s.after))

/-- The year has four digits where the instant is shown, and the digits of the fraction are all that it has. -/
structure Spelling.Spells (s : Spelling) (i : Instant) : Prop where
  year : 0 ≤ (i.civil s.offset.seconds).date.year ∧ (i.civil s.offset.seconds).date.year ≤ 9999
  exact : i.nanos % Nat.pow 10 (9 - s.digits) = 0

variable {i : Instant} {s : Spelling} {c : CivilTime}

/-- What the program itself writes of an instant is one of its spellings. -/
theorem exists_spelling_rfc3339 (hn : i.nanos < 1000000000)
    (hy : 0 ≤ (i.civil 0).date.year ∧ (i.civil 0).date.year ≤ 9999) :
    ∃ s : Spelling, s.Spells i ∧ s.text i = i.rfc3339 := by
  obtain ⟨digits, hle, hexact, htext⟩ := fractionText_eq i.nanos
  refine ⟨{ digits, offset := .minutes false 0, digits_le := hle }, ⟨hy, hexact⟩, ?_⟩
  have hshown : (i.civil 0).shownSecond = (i.civil 0).second := by
    rw [CivilTime.shownSecond, show (i.civil 0).nanos = i.nanos from rfl, Nat.div_eq_of_lt hn, Nat.add_zero]
  have hnanos : (i.civil 0).nanos % 1000000000 = i.nanos := Nat.mod_eq_of_lt hn
  have hoffset : (Offset.minutes false 0).text = ['+', '0', '0', ':', '0', '0'] := by decide
  have hseconds : (Offset.minutes false 0).seconds = 0 := rfl
  rw [Instant.rfc3339, CivilTime.text, hshown, hnanos, htext]
  simp [Spelling.text, Spelling.core, Spelling.civilText, CivilTime.clockText, hoffset, hseconds, Instant.civil]

/-! ## Items -/

/-- A field of a fixed number of digits. -/
theorem read_exact {f : Field} {w v : Nat} (hv : v < Nat.pow 10 w) (ha : f.admits v = true) (x : Reading)
    (r : List Char) : (Item.exact f w).read x (paddedDigits w v ++ r) = .ok (x.put f v, r) := by
  have hd : ∀ c ∈ paddedDigits w v, isDigit c = true := fun c hc => isDigit_of_mem_paddedDigits hc
  have hn : readNumber w w (paddedDigits w v ++ r) = .ok (v, r) := by
    rw [readNumber_digits hd (by simp) (by simp) (.inl (by simp)), decimalValue_paddedDigits, Nat.mod_eq_of_lt hv]
  simp only [Item.read, hn, bind, Except.bind, Reading.set, ha]
  rfl

/-! ## Civil times -/

/-- What has to hold of a civil time and of what follows it for the text to be read. -/
structure Spelling.Reads (s : Spelling) (c : CivilTime) (r : List Char) : Prop where
  valid : c.IsValid
  nanos : c.nanos < 1000000000
  year : 0 ≤ c.date.year ∧ c.date.year ≤ 9999
  exact : c.nanos % Nat.pow 10 (9 - s.digits) = 0
  noDigit : NoDigitFirst r
  noPoint : ∀ c ∈ r.head?, c ≠ '.'

theorem yearText_of_four {y : Int} (h : 0 ≤ y ∧ y ≤ 9999) : yearText y = paddedDigits 4 y.toNat :=
  if_pos (by simpa using h)

/-- A civil time with no leap second is read as it stands. -/
theorem reading_eq (hn : c.nanos < 1000000000) :
    c.reading = ⟨c.date.year, c.date.month, c.date.day, c.hour, c.minute, c.second, c.nanos⟩ := by
  unfold CivilTime.reading CivilTime.shownSecond
  rw [Nat.div_eq_of_lt hn, Nat.mod_eq_of_lt hn, Nat.add_zero]

theorem readItems_strict {r : List Char} (h : s.Reads c r) :
    readItems strictLayout {} (s.civilText c ++ r) = .ok (c.reading, r) := by
  obtain ⟨hd, hh, hm, hs⟩ := h.valid
  obtain ⟨hmonth, hday⟩ := hd.bounds
  have hmonth₁ := hd.month_pos
  have hday₁ := hd.1
  obtain ⟨hy₀, hy₁⟩ := h.year
  have hyear : ((c.date.year.toNat : Nat) : Int) = c.date.year := Int.toNat_of_nonneg hy₀
  have hseparator : ∀ x r, (Item.oneOf ['t', 'T', ' ']).read x ((if s.spaced then ' ' else 'T') :: r) = .ok (x, r) := by
    intro x r
    split <;> rfl
  unfold Spelling.civilText Date.text CivilTime.clockText strictLayout
  rw [yearText_of_four h.year]
  simp only [List.append_assoc, List.cons_append]
  rw [readItems_cons (read_exact (f := .year) (by simp; omega) (by simp [Field.admits]; omega) _ _),
    readItems_cons (read_mark _ _ _),
    readItems_cons (read_exact (f := .month) (by simp; omega) (by simp [Field.admits]; omega) _ _),
    readItems_cons (read_mark _ _ _),
    readItems_cons (read_exact (f := .day) (by simp; omega) (by simp [Field.admits]; omega) _ _),
    readItems_cons (hseparator _ _),
    readItems_cons (read_exact (f := .hour) (by simp; omega) (by simp [Field.admits]; omega) _ _),
    readItems_cons (read_mark _ _ _),
    readItems_cons (read_exact (f := .minute) (by simp; omega) (by simp [Field.admits]; omega) _ _),
    readItems_cons (read_mark _ _ _),
    readItems_cons (read_exact (f := .second) (by simp; omega) (by simp [Field.admits]; omega) _ _),
    readItems_cons (read_decimalFraction s.digits_le h.nanos h.exact rfl h.noDigit h.noPoint)]
  simp only [readItems, reading_eq h.nanos, Reading.put, Int.toNat_natCast, hyear]

/-- The items of a layout without an offset that stand before the separator. -/
theorem readItems_date {d : Date} (hd : d.IsValid) (hy : 0 ≤ d.year ∧ d.year ≤ 9999) (items : List Item) (x : Reading)
    (r : List Char) :
    readItems (.loose .year :: .mark '-' :: .loose .month :: .mark '-' :: .loose .day :: items) x (d.text ++ r) =
      readItems items { x with year := d.year, month := d.month, day := d.day } r := by
  obtain ⟨hmonth, hday⟩ := hd.bounds
  have hmonth₁ := hd.month_pos
  have hday₁ := hd.1
  have ha : Field.admits .year d.year = true := by
    simp only [Field.admits, Bool.and_eq_true, decide_eq_true_eq]
    omega
  unfold Date.text
  simp only [List.append_assoc, List.cons_append]
  rw [readItems_cons (read_year ha _ (noDigitFirst_cons (by decide))), readItems_cons (read_mark _ _ _),
    readItems_cons (read_field (f := .month) (by decide) (by omega) (by simp [Field.admits]; omega) _ _),
    readItems_cons (read_mark _ _ _),
    readItems_cons (read_field (f := .day) (by decide) (by omega) (by simp [Field.admits]; omega) _ _)]
  simp only [Reading.put, Int.toNat_natCast]

/-- The items of a layout without an offset that stand behind the separator. -/
theorem readItems_clock {r : List Char} (h : s.Reads c r) {x : Reading} (hx : x.nanos = 0) :
    readItems [.loose .hour, .mark ':', .loose .minute, .mark ':', .loose .second, .fraction] x
        (c.clockText ++ decimalFraction s.digits c.nanos ++ r) =
      .ok ({ x with hour := c.hour, minute := c.minute, second := c.second, nanos := c.nanos }, r) := by
  obtain ⟨-, hh, hm, hs⟩ := h.valid
  unfold CivilTime.clockText
  simp only [List.append_assoc, List.cons_append]
  rw [readItems_cons (read_field (f := .hour) (by decide) (by omega) (by simp [Field.admits]; omega) _ _),
    readItems_cons (read_mark _ _ _),
    readItems_cons (read_field (f := .minute) (by decide) (by omega) (by simp [Field.admits]; omega) _ _),
    readItems_cons (read_mark _ _ _),
    readItems_cons (read_field (f := .second) (by decide) (by omega) (by simp [Field.admits]; omega) _ _),
    readItems_cons (read_decimalFraction s.digits_le h.nanos h.exact (by exact hx) h.noDigit h.noPoint)]
  simp only [readItems, Reading.put, Int.toNat_natCast]

/-! ## Instants -/

/-- In a year of four digits dates exist, whatever the offset. -/
theorem inRange_of_year {o : Int} (ho : -86400 < o ∧ o < 86400)
    (hy : 0 ≤ (i.civil o).date.year ∧ (i.civil o).date.year ≤ 9999) : i.inRange = true := by
  have hyear : (i.civil o).date.year = yearOf ((i.seconds + o) / 86400) := rfl
  obtain ⟨h₁, h₂⟩ := yearOf_bounds ((i.seconds + o) / 86400)
  rw [← hyear] at h₁ h₂
  have hfirst : yearStart 0 ≤ yearStart (i.civil o).date.year := yearStart_mono hy.1
  have hlast : yearStart ((i.civil o).date.year + 1) ≤ yearStart 10000 := yearStart_mono (by omega)
  have hmin : yearStart minYear < yearStart 0 - 2 := by decide
  have hmax : yearStart 10000 + 2 < yearStart (maxYear + 1) := by decide
  simp only [Instant.inRange, Bool.and_eq_true, decide_eq_true_eq]
  omega

theorem Offset.seconds_lt (p : Offset) : -86400 < p.seconds ∧ p.seconds < 86400 := by
  cases p with
  | minutes west count =>
    have := count.isLt
    unfold Offset.seconds
    split <;> omega
  | _ => decide

/-- What is read of the civil time of an instant at an offset is the instant. -/
theorem instant_of_reading (hn : i.nanos < 1000000000) (hs : s.Spells i) :
    (i.civil s.offset.seconds).reading.instant? s.offset.seconds = .ok i := by
  have hvalid := isValid_civil s.offset.seconds i
  obtain ⟨hwest, heast⟩ := s.offset.seconds_lt
  obtain ⟨hmin, hmax⟩ := hs.year
  have hcivil : (i.civil s.offset.seconds).reading.civil = i.civil s.offset.seconds := by
    have hsecond := hvalid.2.2.2
    rw [reading_eq hn, Reading.civil, if_neg (by dsimp only; omega)]
  have hyears : minYear ≤ (i.civil s.offset.seconds).date.year ∧ (i.civil s.offset.seconds).date.year ≤ maxYear := by
    unfold minYear maxYear
    omega
  simp only [Reading.instant?, hcivil, instant_civil, inRange_of_year s.offset.seconds_lt hs.year]
  simp [hvalid.1, Int.not_lt.2 hyears.1, Int.not_lt.2 hyears.2, Int.not_le.2 hwest, Int.not_le.2 heast]

/-! ## Offsets -/

theorem readTwoDigits_digits {n : Nat} (hn : n < 100) (r : List Char) :
    readTwoDigits (paddedDigits 2 n ++ r) = .ok (n, r) := by
  have h₁ := isDigit_digitChar (d := n / 10 % 10) (Nat.mod_lt _ (by omega))
  have h₂ := isDigit_digitChar (d := n % 10) (Nat.mod_lt _ (by omega))
  have hvalue : decimalValue [digitChar (n / 10 % 10), digitChar (n % 10)] = n := by
    have := decimalValue_paddedDigits 2 n
    rwa [Nat.mod_eq_of_lt hn] at this
  simp [paddedDigits, readTwoDigits, h₁, h₂, hvalue]

/-- An offset that is said is read to its end. -/
theorem readOffset_text {p : Offset} (hp : p ≠ .unsaid) : readOffset dropColon p.text = .ok (p.seconds, []) := by
  cases p with
  | unsaid => exact absurd rfl hp
  | zulu => rfl
  | minutes west count =>
    have hlt := count.isLt
    have hhours := readTwoDigits_digits (n := count / 60) (by omega) (':' :: paddedDigits 2 (count % 60))
    have hrest := readTwoDigits_digits (n := count % 60) (by omega) []
    rw [List.append_nil] at hrest
    have hsum : (count : Nat) / 60 * 3600 + count % 60 * 60 = count * 60 := by omega
    have hle : (count : Nat) % 60 ≤ 59 := by omega
    cases west <;>
      simp [Offset.text, Offset.seconds, readOffset, hhours, hrest, dropColon, bind, Except.bind, Except.map, hle, hsum,
        pure, Except.pure]

/-! ## Layouts -/

/-- What stands after the time of day is neither a further digit nor a further point. -/
theorem Offset.head_text {p : Offset} {c : Char} (hc : c ∈ p.text.head?) : isDigit c = false ∧ c ≠ '.' := by
  cases p with
  | unsaid => cases hc
  | zulu =>
    cases hc
    decide
  | minutes west count =>
    cases hc
    cases west <;> decide

theorem Spelling.Spells.reads (h : s.Spells i) (hn : i.nanos < 1000000000) :
    s.Reads (i.civil s.offset.seconds) s.offset.text where
  valid := isValid_civil _ _
  nanos := hn
  year := h.year
  exact := h.exact
  noDigit _ hc := (Offset.head_text hc).1
  noPoint _ hc := (Offset.head_text hc).2

theorem readStrict_core (hn : i.nanos < 1000000000) (h : s.Spells i) (hp : s.offset ≠ .unsaid) :
    readStrict (s.core i) = .ok i := by
  simp only [readStrict, Spelling.core, readItems_strict (h.reads hn), readOffset_text hp, bind, Except.bind]
  exact instant_of_reading hn h

/-- RFC 3339 wants an offset. -/
theorem readStrict_unsaid (hn : i.nanos < 1000000000) (h : s.Spells i) (hp : s.offset = .unsaid) :
    readStrict (s.core i) = .error .tooShort := by
  simp only [readStrict, Spelling.core, readItems_strict (h.reads hn), bind, Except.bind]
  rw [hp]
  rfl

/-- The layout without an offset in which date and time are set apart by what sets them apart in the text. -/
def plainLayout (spaced : Bool) : List Item :=
  .loose .year :: .mark '-' :: .loose .month :: .mark '-' :: .loose .day ::
    (if spaced then .blanks else .mark 'T') ::
      [.loose .hour, .mark ':', .loose .minute, .mark ':', .loose .second, .fraction]

theorem plainLayouts_eq : plainLayouts = [plainLayout false, plainLayout true] := rfl

theorem core_unsaid (hp : s.offset = .unsaid) :
    s.core i = (i.civil 0).date.text ++
      (if s.spaced then ' ' else 'T') :: ((i.civil 0).clockText ++ decimalFraction s.digits (i.civil 0).nanos) := by
  unfold Spelling.core Spelling.civilText
  rw [hp]
  simp only [Offset.text, Offset.seconds, List.append_nil]

theorem readPlain_core (hn : i.nanos < 1000000000) (h : s.Spells i) (hp : s.offset = .unsaid) :
    readPlain (plainLayout s.spaced) (s.core i) = .ok i := by
  have hreads := h.reads hn
  have hinstant := instant_of_reading hn h
  have hyear := h.year
  rw [hp] at hreads hinstant hyear
  simp only [Offset.text, Offset.seconds] at hreads hinstant hyear
  have hclock := readItems_clock hreads (x := {
    year := (i.civil 0).date.year, month := (i.civil 0).date.month, day := (i.civil 0).date.day }) rfl
  rw [List.append_nil] at hclock
  have hseparator : ∀ x, (if s.spaced then Item.blanks else .mark 'T').read x
      ((if s.spaced then ' ' else 'T') :: ((i.civil 0).clockText ++ decimalFraction s.digits (i.civil 0).nanos)) =
        .ok (x, (i.civil 0).clockText ++ decimalFraction s.digits (i.civil 0).nanos) := by
    intro x
    split
    · -- The blank is dropped, and the hour starts with none.
      have hd : ∀ c ∈ paddedDigits 2 (i.civil 0).hour, isDigit c = true := fun c hc => isDigit_of_mem_paddedDigits hc
      have hblank : isBlank ' ' = true := by decide
      unfold CivilTime.clockText
      simp only [Item.read, List.append_assoc, trimStart, List.dropWhile_cons_of_pos hblank]
      exact congrArg (fun r => Except.ok (x, r)) (trimStart_digits hd (by simp [paddedDigits]) _)
    · exact read_mark _ _ _
  rw [core_unsaid hp, readPlain, plainLayout, readItems_date hreads.valid.1 hyear, readItems_cons (hseparator _),
    hclock, ← reading_eq hn]
  exact hinstant

/-- A blank is no `T`. -/
theorem readPlain_spaced (h : s.Spells i) (hp : s.offset = .unsaid)
    (hs : s.spaced = true) : readPlain (plainLayout false) (s.core i) = .error .invalid := by
  have hyear := h.year
  rw [hp] at hyear
  rw [core_unsaid hp, readPlain, plainLayout, readItems_date (isValid_civil 0 i).1 hyear, hs]
  rfl

theorem firstReading_core (hn : i.nanos < 1000000000) (h : s.Spells i) :
    firstReading (readStrict :: plainLayouts.map readPlain) (s.core i) = some i := by
  by_cases hp : s.offset = .unsaid
  · have hstrict := readStrict_unsaid hn h hp
    have hplain := readPlain_core hn h hp
    rw [plainLayouts_eq, firstReading]
    cases hs : s.spaced with
    | false =>
      rw [hs] at hplain
      simp [hstrict, hplain, Except.toOption]
    | true =>
      rw [hs] at hplain
      simp [hstrict, readPlain_spaced h hp hs, hplain, Except.toOption]
  · simp [firstReading, readStrict_core hn h hp, Except.toOption]

/-! ## Blanks -/

theorem core_ne_nil : s.core i ≠ [] := by simp [Spelling.core, Spelling.civilText]

theorem head_core (h : s.Spells i) : ∀ c ∈ (s.core i).head?, isBlank c = false := by
  intro c hc
  have hdigits := fun n : Nat => isDigit_digitChar (d := n % 10) (Nat.mod_lt _ (by omega))
  unfold Spelling.core Spelling.civilText Date.text at hc
  rw [yearText_of_four h.year] at hc
  cases hc
  exact isBlank_of_isDigit (hdigits _)

theorem isBlank_of_mem_offset {p : Offset} {c : Char} (h : c ∈ p.text) : isBlank c = false := by
  cases p with
  | unsaid => cases h
  | zulu =>
    rw [List.mem_singleton.1 h]
    decide
  | minutes west count =>
    simp only [Offset.text, List.mem_cons, List.mem_append] at h
    rcases h with rfl | h | rfl | h
    · cases west <;> decide
    · exact isBlank_of_isDigit (isDigit_of_mem_paddedDigits h)
    · decide
    · exact isBlank_of_isDigit (isDigit_of_mem_paddedDigits h)

theorem isBlank_of_mem_decimalFraction {digits n : Nat} {c : Char} (h : c ∈ decimalFraction digits n) :
    isBlank c = false := by
  unfold decimalFraction at h
  split at h
  · cases h
  · rcases List.mem_cons.1 h with rfl | h
    · decide
    · exact isBlank_of_isDigit (isDigit_of_mem_paddedDigits h)

/-- No blank stands from the seconds on. -/
theorem getLast_core : ∀ c ∈ (s.core i).getLast?, isBlank c = false := by
  intro c hc
  let seconds := paddedDigits 2 (i.civil s.offset.seconds).second
  have hne : seconds ++ (decimalFraction s.digits i.nanos ++ s.offset.text) ≠ [] := by simp [seconds, paddedDigits]
  let front := (i.civil s.offset.seconds).date.text ++ (if s.spaced then ' ' else 'T') ::
    (paddedDigits 2 (i.civil s.offset.seconds).hour ++ ':' :: (paddedDigits 2 (i.civil s.offset.seconds).minute ++ [':']))
  have hfront : s.core i = front ++ (seconds ++ (decimalFraction s.digits i.nanos ++ s.offset.text)) := by
    simp [front, seconds, Spelling.core, Spelling.civilText, CivilTime.clockText, Instant.civil]
  rw [hfront, List.getLast?_append, List.getLast?_eq_some_getLast hne, Option.some_or] at hc
  cases hc
  rcases List.mem_append.1 (List.getLast_mem hne) with h | h
  · exact isBlank_of_isDigit (isDigit_of_mem_paddedDigits h)
  · rcases List.mem_append.1 h with h | h
    · exact isBlank_of_mem_decimalFraction h
    · exact isBlank_of_mem_offset h

theorem trim_text (h : s.Spells i) : trim (s.text i).toList = s.core i := by
  rw [Spelling.text, String.toList_ofList]
  exact trim_between (List.all_eq_true.1 s.blank_before) (List.all_eq_true.1 s.blank_after) (head_core h)
    getLast_core core_ne_nil

/-! ## Timestamps -/

/-- What is read of a timestamp is all that is shown of it, if it is an instant. -/
theorem isBlankText_of_readTimestamp {t : String} (h : readTimestamp t = some i) : isBlankText t = false := by
  rw [isBlankText, Bool.eq_false_iff, ne_eq, List.all_eq_true]
  intro hall
  rw [readTimestamp, trim_eq_nil_iff.2 hall] at h
  cases h

theorem resolve_of_readTimestamp {t : String} (h : readTimestamp t = some i) :
    resolve (some t) = if i.isUnset then .missing else .at i := by
  simp only [resolve, isBlankText_of_readTimestamp h, h]
  rfl

/-- A timestamp is read as the instant that it spells, at every offset, with every number of digits that is exact and
    with any blanks around it; and all timestamps that spell an instant are shown alike. -/
theorem readTimestamp_spelling (hn : i.nanos < 1000000000) (hs : s.Spells i) :
    readTimestamp (s.text i) = some i ∧
      ∀ t : Spelling, t.Spells i → ∀ now zone,
        showAbsolute (some (t.text i)) zone = showAbsolute (some (s.text i)) zone ∧
          showShortDate (some (t.text i)) now zone = showShortDate (some (s.text i)) now zone ∧
          showRelative (t.text i) now zone = showRelative (s.text i) now zone := by
  have hread : ∀ t : Spelling, t.Spells i → readTimestamp (t.text i) = some i := by
    intro t ht
    have hcore : (t.core i).isEmpty = false := List.isEmpty_eq_false_iff.2 core_ne_nil
    simp only [readTimestamp, trim_text ht, hcore]
    exact firstReading_core hn ht
  refine ⟨hread s hs, ?_⟩
  intro t ht now zone
  have hresolve : resolve (some (t.text i)) = resolve (some (s.text i)) := by
    rw [resolve_of_readTimestamp (hread t ht), resolve_of_readTimestamp (hread s hs)]
  refine ⟨?_, ?_, ?_⟩
  · simp only [showAbsolute, hresolve]
  · simp only [showShortDate, hresolve]
  · simp only [showRelative, hread t ht, hread s hs]

/-- The last second before the year 10000 at the farthest offset to the east lies in the last day of the year before,
    and its fraction has trailing zeros here and none there. -/
theorem readTimestamp_spelling_east :
    let i : Instant := ⟨253402214459, 120000000⟩
    readTimestamp "\t9999-12-31T23:59:59.12000+23:59 " = some i ∧
      showAbsolute (some "9999-12-31 00:00:59.12") 0 = showAbsolute (some "\t9999-12-31T23:59:59.12000+23:59 ") 0 := by
  intro i
  let s : Spelling := { before := ['\t'], after := [' '], digits := 5, offset := .minutes false 1439 }
  let t : Spelling := { spaced := true, digits := 2, offset := .unsaid }
  have hs : s.Spells i := ⟨by decide +kernel, by decide +kernel⟩
  have ht : t.Spells i := ⟨by decide +kernel, by decide +kernel⟩
  have hstext : s.text i = "\t9999-12-31T23:59:59.12000+23:59 " := by decide +kernel
  have httext : t.text i = "9999-12-31 00:00:59.12" := by decide +kernel
  obtain ⟨hread, hshown⟩ := readTimestamp_spelling (by decide) hs
  rw [hstext] at hread hshown
  have habsolute := (hshown t ht .unset 0).1
  rw [httext] at habsolute
  exact ⟨hread, habsolute⟩

end Time

end ClusterPanel
