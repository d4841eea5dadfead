import ClusterPanel.Time.Timestamp

/- Written timestamps read back. Every part of the text that `Instant.rfc3339Z` writes is read by its item of the
   relaxed layout and by nothing else: years with and without a sign (`read_year`), fields of two digits
   (`read_field`), fractions of 0, 3, 6 or 9 digits (`read_fraction`). From the parts, `readItems_civil` reads the
   whole civil time, and the calendar takes it back to the instant (`readRelaxed_rfc3339Z`). A leap second is
   written as the sixtieth second, so it comes back if it stands where clocks have leap seconds, at the end of a
   minute; anywhere else it comes back as the second that it was shown as (`Instant.settled`). -/
namespace ClusterPanel

open Text

namespace Text

/-! ## Numerals -/

theorem isDigit_of_isDigit {c : Char} (h : c.isDigit = true) : isDigit c = true := by
  simp only [Char.isDigit, Bool.and_eq_true, decide_eq_true_eq] at h
  simp only [isDigit, Bool.and_eq_true, decide_eq_true_eq]
  exact ⟨UInt32.le_iff_toNat_le.1 h.1, UInt32.le_iff_toNat_le.1 h.2⟩

theorem isDigit_of_mem_numeral {n : Nat} {c : Char} (h : c ∈ numeral n) : isDigit c = true :=
  isDigit_of_isDigit (Nat.isDigit_of_mem_toDigits (by omega) (by omega) h)

theorem digitValue_natDigitChar {d : Nat} (h : d < 10) : digitValue d.digitChar = d := by
  have : d = 0 ∨ d = 1 ∨ d = 2 ∨ d = 3 ∨ d = 4 ∨ d = 5 ∨ d = 6 ∨ d = 7 ∨ d = 8 ∨ d = 9 := by omega
  rcases this with rfl | rfl | rfl | rfl | rfl | rfl | rfl | rfl | rfl | rfl <;> rfl

/-- The shortest spelling of a number spells it. -/
theorem decimalValue_numeral (n : Nat) : decimalValue (numeral n) = n := by
  induction n using Nat.strongRecOn with
  | ind n ih =>
    unfold numeral at ih ⊢
    rcases Nat.lt_or_ge n 10 with h | h
    · rw [Nat.toDigits_of_lt_base h]
      simp only [decimalValue, List.foldl_cons, List.foldl_nil, digitValue_natDigitChar h, Nat.zero_mul, Nat.zero_add]
    · rw [Nat.toDigits_of_base_le (by omega) h, decimalValue_append, ih (n / 10) (by omega),
        digitValue_natDigitChar (Nat.mod_lt _ (by omega))]
      omega

theorem numeral_ne_nil (n : Nat) : numeral n ≠ [] := by
  unfold numeral
  rcases Nat.lt_or_ge n 10 with h | h
  · rw [Nat.toDigits_of_lt_base h]
    exact List.cons_ne_nil _ _
  · rw [Nat.toDigits_of_base_le (by omega) h]
    exact List.append_ne_nil_of_right_ne_nil _ (List.cons_ne_nil _ _)

theorem isBlank_of_isDigit {c : Char} (h : isDigit c = true) : isBlank c = false := by
  have hpoints : ∀ m ∈ blankPoints, m < 48 ∨ 57 < m := by decide
  simp only [isDigit, Bool.and_eq_true, decide_eq_true_eq] at h
  rw [isBlank, List.contains_eq_mem, decide_eq_false_iff_not]
  intro hm
  have := hpoints _ hm
  omega

theorem trimStart_of_head {c : Char} {s : List Char} (h : isBlank c = false) : trimStart (c :: s) = c :: s := by
  simp [trimStart, h]

/-- A text that starts with digits, of which there are some, starts with no blank. -/
theorem trimStart_digits {ds : List Char} (hd : ∀ c ∈ ds, isDigit c = true) (hn : ds ≠ []) (r : List Char) :
    trimStart (ds ++ r) = ds ++ r := by
  cases ds with
  | nil => exact absurd rfl hn
  | cons c ds => exact trimStart_of_head (isBlank_of_isDigit (hd c (by simp)))

end Text

namespace Time

/-! ## Items -/

/-- What follows a number is no digit. -/
def NoDigitFirst (s : List Char) : Prop := ∀ c ∈ s.head?, isDigit c = false

theorem noDigitFirst_cons {c : Char} {s : List Char} (h : isDigit c = false) : NoDigitFirst (c :: s) := by
  intro d hd
  cases hd
  exact h

theorem readNumber_digits {min max : Nat} {ds r : List Char} (hd : ∀ c ∈ ds, isDigit c = true)
    (hmin : min ≤ ds.length) (hmax : ds.length ≤ max) (hr : ds.length = max ∨ NoDigitFirst r) :
    readNumber min max (ds ++ r) = .ok (decimalValue ds, r) := by
  unfold readNumber
  rw [takeDigits_of_digits hd hmax hr]
  exact if_neg (Nat.not_lt.2 hmin)

/-- A field of two digits. -/
theorem read_field {f : Field} (hf : f ≠ .year) {v : Nat} (hv : v < 100) (ha : f.admits v = true) (x : Reading)
    (r : List Char) : (Item.loose f).read x (paddedDigits 2 v ++ r) = .ok (x.put f v, r) := by
  have hd : ∀ c ∈ paddedDigits 2 v, isDigit c = true := fun c hc => isDigit_of_mem_paddedDigits hc
  have hn : readNumber 1 2 (trimStart (paddedDigits 2 v ++ r)) = .ok (v, r) := by
    rw [trimStart_digits hd (by simp [paddedDigits]), readNumber_digits hd (by simp) (by simp) (.inl (by simp)),
      decimalValue_paddedDigits, Nat.mod_eq_of_lt hv]
  cases f <;> first
    | exact absurd rfl hf
    | simp only [Item.read, Field.width, hn, bind, Except.bind, Reading.set, ha]; rfl

theorem readSigned_minus {width n : Nat} {ds r : List Char} (hd : ∀ c ∈ ds, isDigit c = true) (hn : ds ≠ [])
    (hr : NoDigitFirst r) (h : decimalValue ds = n) : readSigned width ('-' :: (ds ++ r)) = .ok (-(n : Int), r) := by
  have hlen : 1 ≤ ds.length := List.length_pos_iff.2 hn
  simp only [readSigned]
  rw [readNumber_digits hd hlen (by simp) (.inr hr), h]
  rfl

theorem readSigned_plus {width n : Nat} {ds r : List Char} (hd : ∀ c ∈ ds, isDigit c = true) (hn : ds ≠ [])
    (hr : NoDigitFirst r) (h : decimalValue ds = n) : readSigned width ('+' :: (ds ++ r)) = .ok ((n : Int), r) := by
  have hlen : 1 ≤ ds.length := List.length_pos_iff.2 hn
  simp only [readSigned]
  rw [readNumber_digits hd hlen (by simp) (.inr hr), h]
  rfl

theorem readSigned_digits {width : Nat} {ds r : List Char} (hd : ∀ c ∈ ds, isDigit c = true) (hn : ds ≠ [])
    (hw : ds.length ≤ width) (hr : NoDigitFirst r) :
    readSigned width (ds ++ r) = .ok ((decimalValue ds : Int), r) := by
  have hlen : 1 ≤ ds.length := List.length_pos_iff.2 hn
  have hread := readNumber_digits hd hlen hw (.inr hr)
  cases ds with
  | nil => exact absurd rfl hn
  | cons c ds =>
    -- A digit is no sign.
    have hc := hd c (by simp)
    unfold readSigned
    split
    · next h => cases h; cases hc
    · next h => cases h; cases hc
    · rw [hread]
      rfl

/-- The digits of a year with a sign. -/
def yearDigits (n : Nat) : List Char := if n < 10000 then paddedDigits 4 n else numeral n

theorem isDigit_of_mem_yearDigits {n : Nat} {c : Char} (h : c ∈ yearDigits n) : isDigit c = true := by
  unfold yearDigits at h
  split at h
  · exact isDigit_of_mem_paddedDigits h
  · exact isDigit_of_mem_numeral h

theorem yearDigits_ne_nil (n : Nat) : yearDigits n ≠ [] := by
  unfold yearDigits
  split
  · simp [paddedDigits]
  · exact numeral_ne_nil n

theorem decimalValue_yearDigits (n : Nat) : decimalValue (yearDigits n) = n := by
  unfold yearDigits
  split
  · next h => rw [decimalValue_paddedDigits, Nat.mod_eq_of_lt h]
  · exact decimalValue_numeral n

theorem readSigned_yearText (y : Int) {r : List Char} (hr : NoDigitFirst r) :
    readSigned 4 (trimStart (yearText y ++ r)) = .ok (y, r) := by
  unfold yearText
  split
  · next h =>
    simp only [Bool.and_eq_true, decide_eq_true_eq] at h
    have hd : ∀ c ∈ paddedDigits 4 y.toNat, isDigit c = true := fun c hc => isDigit_of_mem_paddedDigits hc
    rw [trimStart_digits hd (by simp [paddedDigits])]
    rw [readSigned_digits hd (by simp [paddedDigits]) (by simp) hr, decimalValue_paddedDigits,
      Nat.mod_eq_of_lt (show y.toNat < 10000 by omega)]
    congr 2
    omega
  · next h =>
    simp only [Bool.and_eq_true, decide_eq_true_eq] at h
    change readSigned 4 (trimStart ((if y < 0 then '-' else '+') :: (yearDigits y.natAbs ++ r))) = _
    split
    · rw [trimStart_of_head (by decide), readSigned_minus (fun c hc => isDigit_of_mem_yearDigits hc)
        (yearDigits_ne_nil _) hr (decimalValue_yearDigits _)]
      congr 2
      omega
    · rw [trimStart_of_head (by decide), readSigned_plus (fun c hc => isDigit_of_mem_yearDigits hc)
        (yearDigits_ne_nil _) hr (decimalValue_yearDigits _)]
      congr 2
      omega

theorem read_year {y : Int} (ha : Field.admits .year y = true) (x : Reading) {r : List Char} (hr : NoDigitFirst r) :
    (Item.loose .year).read x (yearText y ++ r) = .ok (x.put .year y, r) := by
  simp only [Item.read, readSigned_yearText y hr, bind, Except.bind, Reading.set, ha]
  rfl

theorem read_mark (c : Char) (x : Reading) (r : List Char) : (Item.mark c).read x (c :: r) = .ok (x, r) := by
  simp [Item.read]

theorem read_letterT (x : Reading) (r : List Char) :
    (Item.oneOf ['t', 'T', ' ']).read x ('T' :: r) = .ok (x, r) := rfl

theorem read_blanks {c : Char} (h : isBlank c = false) (x : Reading) (r : List Char) :
    Item.blanks.read x (c :: r) = .ok (x, c :: r) := by
  simp only [Item.read, trimStart_of_head h]

theorem readFraction_digits {w v : Nat} (hw : 0 < w) (hw9 : w ≤ 9) (hv : v < Nat.pow 10 w) {r : List Char}
    (hr : NoDigitFirst r) : readFraction (paddedDigits w v ++ r) = .ok (v * Nat.pow 10 (9 - w), r) := by
  have hd : ∀ c ∈ paddedDigits w v, isDigit c = true := fun c hc => isDigit_of_mem_paddedDigits hc
  have hdrop : r.dropWhile isDigit = r := by
    cases r with
    | nil => rfl
    | cons c r => simp [hr c rfl]
  have hne : (paddedDigits w v).isEmpty = false := by
    rw [List.isEmpty_eq_false_iff, ← List.length_pos_iff, length_paddedDigits]
    exact hw
  simp only [readFraction, takeDigits_of_digits hd (by simpa using hw9) (.inr hr), hne, length_paddedDigits,
    decimalValue_paddedDigits, Nat.mod_eq_of_lt hv, hdrop]
  rfl

theorem read_no_fraction {c : Char} (hp : c ≠ '.') (x : Reading) (r : List Char) :
    Item.fraction.read x (c :: r) = .ok (x, c :: r) := by
  simp only [Item.read]
  split
  · next h =>
    cases h
    exact absurd rfl hp
  · rfl

/-- The first digits of a fraction of a second, without a point if there are none. -/
def decimalFraction (digits nanos : Nat) : List Char :=
  if digits = 0 then [] else '.' :: paddedDigits digits (nanos / Nat.pow 10 (9 - digits))

/-- The fewest digits of a fraction in groups of three are exact. -/
theorem fractionText_eq (n : Nat) :
    ∃ digits, digits ≤ 9 ∧ n % Nat.pow 10 (9 - digits) = 0 ∧ fractionText n = decimalFraction digits n := by
  unfold fractionText
  split
  · next h =>
    subst h
    exact ⟨0, by omega, rfl, rfl⟩
  · split
    · next h => exact ⟨3, by omega, h, rfl⟩
    · split
      · next h => exact ⟨6, by omega, h, rfl⟩
      · exact ⟨9, by omega, Nat.mod_one n, by simp [decimalFraction]⟩

/-- A fraction comes back whole from any number of digits that is enough for it. -/
theorem read_decimalFraction {digits n : Nat} (hdigits : digits ≤ 9) (hn : n < 1000000000)
    (hexact : n % Nat.pow 10 (9 - digits) = 0) {x : Reading} (hx : x.nanos = 0) {r : List Char} (hr : NoDigitFirst r)
    (hp : ∀ c ∈ r.head?, c ≠ '.') :
    Item.fraction.read x (decimalFraction digits n ++ r) = .ok ({ x with nanos := n }, r) := by
  unfold decimalFraction
  split
  · next hzero =>
    -- No digits are enough for zero alone.
    subst hzero
    have hnanos : n = x.nanos := by
      rw [hx]
      exact (Nat.mod_eq_of_lt hn).symm.trans hexact
    rw [hnanos]
    cases r with
    | nil => rfl
    | cons c r => exact read_no_fraction (hp c rfl) x r
  · next hpos =>
    have hsplit : Nat.pow 10 digits * Nat.pow 10 (9 - digits) = 1000000000 := by
      calc Nat.pow 10 digits * Nat.pow 10 (9 - digits)
        _ = Nat.pow 10 (digits + (9 - digits)) := (Nat.pow_add 10 _ _).symm
        _ = Nat.pow 10 9 := by rw [Nat.add_sub_cancel' hdigits]
    have hlt : n / Nat.pow 10 (9 - digits) < Nat.pow 10 digits :=
      Nat.div_lt_of_lt_mul (by rw [Nat.mul_comm]; exact hsplit ▸ hn)
    have hback : n / Nat.pow 10 (9 - digits) * Nat.pow 10 (9 - digits) = n :=
      Nat.div_mul_cancel (Nat.dvd_of_mod_eq_zero hexact)
    simp only [Item.read, List.cons_append, readFraction_digits (Nat.pos_of_ne_zero hpos) hdigits hlt hr, Except.map,
      hback]

/-- A fraction comes back whole, however many digits it was given. -/
theorem read_fraction {n : Nat} (hn : n < 1000000000) {x : Reading} (hx : x.nanos = 0) {c : Char} {r : List Char}
    (hc : isDigit c = false) (hp : c ≠ '.') :
    Item.fraction.read x (fractionText n ++ c :: r) = .ok ({ x with nanos := n }, c :: r) := by
  obtain ⟨digits, hdigits, hexact, htext⟩ := fractionText_eq n
  have hpoint : ∀ d ∈ (c :: r).head?, d ≠ '.' := by
    intro d hd
    cases hd
    exact hp
  rw [htext]
  exact read_decimalFraction hdigits hn hexact hx (noDigitFirst_cons hc) hpoint

/-! ## Civil times -/

theorem readItems_cons {item : Item} {items : List Item} {x x' : Reading} {s s' : List Char}
    (h : item.read x s = .ok (x', s')) : readItems (item :: items) x s = readItems items x' s' := by
  simp only [readItems, h, bind, Except.bind]

theorem length_monthLengths (leap : Bool) : (monthLengths leap).length = 12 := rfl

theorem le_of_mem_monthLengths {leap : Bool} {l : Nat} (h : l ∈ monthLengths leap) : l ≤ 31 := by
  revert l
  cases leap <;> decide

theorem Date.IsValid.bounds {d : Date} (h : d.IsValid) : d.month ≤ 12 ∧ d.day ≤ 31 := by
  obtain ⟨h₁, h₂⟩ := h
  unfold monthLength at h₂
  split at h₂
  · omega
  · rw [List.getD_eq_getElem?_getD] at h₂
    rcases Nat.lt_or_ge (d.month - 1) (monthLengths (isLeapYear d.year)).length with hl | hl
    · rw [List.getElem?_eq_getElem hl] at h₂
      have := le_of_mem_monthLengths (List.getElem_mem hl)
      rw [length_monthLengths] at hl
      simp only [Option.getD_some] at h₂
      omega
    · rw [List.getElem?_eq_none hl] at h₂
      simp only [Option.getD_none] at h₂
      omega

/-- What is read of the text of a civil time. -/
def CivilTime.reading (c : CivilTime) : Reading where
  year := c.date.year
  month := c.date.month
  day := c.date.day
  hour := c.hour
  minute := c.minute
  second := c.shownSecond
  nanos := c.nanos % 1000000000

/-- The text of a civil time is read field by field, up to the offset. -/
theorem readItems_civil {c : CivilTime} (h : c.IsValid) (hn : c.nanos < 2000000000)
    (hy : Field.admits .year c.date.year = true) :
    readItems relaxedLayout {} (c.text ++ ['Z']) = .ok (c.reading, ['Z']) := by
  obtain ⟨hd, hh, hm, hs⟩ := h
  obtain ⟨hmonth, hday⟩ := hd.bounds
  have hmonth₁ := hd.month_pos
  have hday₁ := hd.1
  have hshown : c.shownSecond ≤ 60 := by
    unfold CivilTime.shownSecond
    omega
  have hfrac : c.nanos % 1000000000 < 1000000000 := Nat.mod_lt _ (by omega)
  -- Each item of the layout takes its part of the text; blanks take nothing.
  unfold CivilTime.text Date.text relaxedLayout
  simp only [List.append_assoc, List.cons_append]
  rw [readItems_cons (read_year hy _ (noDigitFirst_cons (by decide))), readItems_cons (read_blanks (by decide) _ _),
    readItems_cons (read_mark _ _ _),
    readItems_cons (read_field (f := .month) (by decide) (by omega) (by simp [Field.admits]; omega) _ _),
    readItems_cons (read_blanks (by decide) _ _), readItems_cons (read_mark _ _ _),
    readItems_cons (read_field (f := .day) (by decide) (by omega) (by simp [Field.admits]; omega) _ _),
    readItems_cons (read_letterT _ _),
    readItems_cons (read_field (f := .hour) (by decide) (by omega) (by simp [Field.admits]; omega) _ _),
    readItems_cons (read_blanks (by decide) _ _), readItems_cons (read_mark _ _ _),
    readItems_cons (read_field (f := .minute) (by decide) (by omega) (by simp [Field.admits]; omega) _ _),
    readItems_cons (read_blanks (by decide) _ _), readItems_cons (read_mark _ _ _),
    readItems_cons (read_field (f := .second) (by decide) (by omega) (by simp [Field.admits]; omega) _ _),
    readItems_cons (read_fraction hfrac rfl (by decide) (by decide)), readItems_cons (read_blanks (by decide) _ _)]
  simp only [readItems, CivilTime.reading, Reading.put, Int.toNat_natCast]

/-- The year of an instant is one that dates may have. -/
theorem year_of_inRange {i : Instant} (h : i.inRange = true) :
    minYear ≤ (i.civil 0).date.year ∧ (i.civil 0).date.year ≤ maxYear := by
  simp only [Instant.inRange, Bool.and_eq_true, decide_eq_true_eq] at h
  have hyear : (i.civil 0).date.year = yearOf (i.seconds / 86400) := by
    simp only [Instant.civil, Date.ofDayNumber, Int.add_zero]
  -- A year outside would begin or end on the wrong side of the range.
  obtain ⟨h₁, h₂⟩ := yearOf_bounds (i.seconds / 86400)
  rw [hyear]
  constructor
  · rcases Int.lt_or_le (yearOf (i.seconds / 86400)) minYear with hlt | hle
    · have := yearStart_mono (Int.add_one_le_of_lt hlt)
      omega
    · exact hle
  · rcases Int.lt_or_le maxYear (yearOf (i.seconds / 86400)) with hlt | hle
    · have := yearStart_mono (Int.add_one_le_of_lt hlt)
      omega
    · exact hle

/-- What a clock library holds of an instant: a year that dates may have, and at most one second beyond the last. -/
structure Instant.IsHeld (i : Instant) : Prop where
  inRange : i.inRange = true
  nanos : i.nanos < 2000000000

/-- A leap second stands at the end of a minute. -/
def Instant.LeapEndsMinute (i : Instant) : Prop := 1000000000 ≤ i.nanos → i.seconds % 60 = 59

instance (i : Instant) : Decidable i.LeapEndsMinute := inferInstanceAs (Decidable (_ → _))

/-- The instant that an instant is shown as: a leap second that is not at the end of a minute is shown as the second
    after. -/
def Instant.settled (i : Instant) : Instant :=
  if i.LeapEndsMinute then i else ⟨i.seconds + 1, i.nanos - 1000000000⟩

theorem settled_of_leapEndsMinute {i : Instant} (h : i.LeapEndsMinute) : i.settled = i := if_pos h

/-- An instant is shown as itself exactly if its text says it in full. -/
theorem settled_eq_self_iff {i : Instant} : i.settled = i ↔ i.LeapEndsMinute := by
  refine ⟨?_, settled_of_leapEndsMinute⟩
  intro h
  by_cases hl : i.LeapEndsMinute
  · exact hl
  · rw [Instant.settled, if_neg hl] at h
    have hseconds : i.seconds + 1 = i.seconds := congrArg Instant.seconds h
    omega

/-- What is read of the text of an instant is the civil time of the instant that is shown. -/
theorem instant_reading {i : Instant} (h : i.IsHeld) :
    (i.civil 0).reading.civil.date = (i.civil 0).date ∧ (i.civil 0).reading.civil.instant 0 = i.settled := by
  have hback := instant_civil 0 i
  have hsecond : (i.civil 0).second = (i.seconds % 60).toNat := by
    simp only [Instant.civil, Int.add_zero]
    omega
  have hnanos : (i.civil 0).nanos = i.nanos := rfl
  have hn := h.nanos
  generalize i.civil 0 = c at hback hsecond hnanos ⊢
  obtain ⟨⟨y, m, d⟩, hour, minute, second, nanos⟩ := c
  dsimp only at hsecond hnanos
  unfold Reading.civil CivilTime.reading CivilTime.shownSecond
  refine ⟨by dsimp only; split <;> rfl, ?_⟩
  by_cases hl : i.LeapEndsMinute
  · rw [settled_of_leapEndsMinute hl]
    unfold Instant.LeapEndsMinute at hl
    rw [← hback]
    dsimp only
    -- Shown as a sixtieth second is the leap second alone, and anything before it is shown as it is.
    split <;> simp only [CivilTime.instant, Instant.mk.injEq] <;> omega
  · unfold Instant.settled
    rw [if_neg hl]
    unfold Instant.LeapEndsMinute at hl
    have hseconds := congrArg Instant.seconds hback
    dsimp only
    rw [if_neg (by omega)]
    simp only [CivilTime.instant, Instant.mk.injEq] at hseconds ⊢
    omega

theorem inRange_settled {i : Instant} (h : i.inRange = true) : i.settled.inRange = true := by
  unfold Instant.settled
  split
  · exact h
  · next hl =>
    unfold Instant.LeapEndsMinute at hl
    simp only [Instant.inRange, Bool.and_eq_true, decide_eq_true_eq] at h ⊢
    omega

/-- What was written of an instant is read as the instant that it was shown as. -/
theorem readRelaxed_text {i : Instant} (h : i.IsHeld) : readRelaxed ((i.civil 0).text ++ ['Z']) = .ok i.settled := by
  have hvalid := isValid_civil 0 i
  obtain ⟨hmin, hmax⟩ := year_of_inRange h.inRange
  obtain ⟨hdate, hinstant⟩ := instant_reading h
  have hy : Field.admits .year (i.civil 0).date.year = true := by
    simp only [Field.admits, minYear, maxYear, Bool.and_eq_true, decide_eq_true_eq] at hmin hmax ⊢
    omega
  have hitems := readItems_civil hvalid h.nanos hy
  have hoffset : readRelaxedOffset ['Z'] = .ok (0, []) := rfl
  simp only [readRelaxed, hitems, hoffset, bind, Except.bind]
  rw [if_pos (show (trimStart []).isEmpty = true from rfl)]
  simp only [Reading.instant?, hinstant, inRange_settled h.inRange, hdate]
  simp [hvalid.1, Int.not_lt.2 hmin, Int.not_lt.2 hmax]

end Time

end ClusterPanel
