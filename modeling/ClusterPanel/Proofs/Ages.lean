import ClusterPanel.Proofs.DistinctDates
import ClusterPanel.Proofs.UnsetTimes

/- Ages. The age of an instant is told in the largest unit that it fills, by the whole number of those that fit into it
   (`Tells`); there is one way to tell an age so (`Tells.unique`), and an older instant is never told as a younger one
   (`Tells.mono`). The text tells unit and number (`agoText_inj`) and is never that of a date
   (`agoText_ne_shortText`), so what is shown of a timestamp says how old it is, from a week on when it was
   (`relative_age`). -/
namespace ClusterPanel.Time

open Text

/-! ## Ages in seconds -/

/-- The nanoseconds from 1970-01-01T00:00:00Z to an instant. -/
def Instant.total (i : Instant) : Int := i.seconds * 1000000000 + i.nanos

/-- How many whole seconds ago an instant was; none if it lies ahead. -/
def Instant.age (i now : Instant) : Nat := ((now.total - i.total) / 1000000000).toNat

section Age

variable {i j now : Instant}

/-- Outside of leap seconds, what is measured is the age. -/
theorem secondsSince_toNat (hi : i.nanos < 1000000000) (hnow : now.nanos < 1000000000) :
    (now.secondsSince i).toNat = i.age now := by
  unfold Instant.secondsSince
  dsimp only
  rw [if_neg (by simp; omega), if_neg (by simp; omega)]
  have htotal : (now.seconds - i.seconds + 0) * 1000000000 + ((now.nanos : Int) - i.nanos) = now.total - i.total := by
    unfold Instant.total
    omega
  rw [htotal, Instant.age]
  generalize now.total - i.total = d
  -- Toward zero and toward the floor differ for what lies ahead alone, and of that nothing is left.
  rcases Int.lt_or_le d 0 with hahead | hago
  · have htrunc : d.tdiv 1000000000 = -(-d / 1000000000) := by
      rw [← Int.tdiv_eq_ediv_of_nonneg (by omega), Int.neg_tdiv, Int.neg_neg]
    omega
  · rw [Int.tdiv_eq_ediv_of_nonneg hago]

theorem age_le_age (hi : i.nanos < 1000000000) (hj : j.nanos < 1000000000) (h : j.le i = true) (now : Instant) :
    i.age now ≤ j.age now := by
  simp only [Instant.le, Bool.or_eq_true, Bool.and_eq_true, decide_eq_true_eq, beq_iff_eq] at h
  unfold Instant.age Instant.total
  omega

end Age

/-! ## Telling an age -/

/-- An age of `e` seconds is told as `n` units: the largest unit that it fills, or the second if it fills none, as many
    times as it fits. -/
structure Tells (e n : Nat) (unit : AgeUnit) : Prop where
  filled : unit.seconds ≤ e ∨ e = 0 ∧ unit = .second
  largest : ∀ other : AgeUnit, other.seconds ≤ e → other.seconds ≤ unit.seconds
  le : n * unit.seconds ≤ e
  lt : e < (n + 1) * unit.seconds

theorem AgeUnit.seconds_pos (unit : AgeUnit) : 0 < unit.seconds := by
  cases unit <;> decide

theorem AgeUnit.seconds_inj {unit unit' : AgeUnit} (h : unit.seconds = unit'.seconds) : unit = unit' := by
  cases unit <;> cases unit' <;> first | rfl | exact absurd h (by decide)

/-- Under a week there is a unit, and the age is told in it. -/
theorem exists_ageUnit {e : Nat} (h : e < 604800) :
    ∃ unit, ageUnit? e = some unit ∧ Tells e (e / unit.seconds) unit := by
  -- That the unit fits so often is division; what is left to say is that it is filled and that no larger one is.
  have htells {unit : AgeUnit} (hfilled : unit.seconds ≤ e ∨ e = 0 ∧ unit = .second)
      (hlargest : ∀ other : AgeUnit, other.seconds ≤ e → other.seconds ≤ unit.seconds) :
      Tells e (e / unit.seconds) unit :=
    ⟨hfilled, hlargest, Nat.div_mul_le_self _ _, Nat.lt_mul_of_div_lt (Nat.lt_succ_self _) unit.seconds_pos⟩
  unfold ageUnit?
  split
  · refine ⟨.second, rfl, htells ?_ fun other => ?_⟩
    · exact (Nat.eq_zero_or_pos e).symm.imp_right fun hzero => ⟨hzero, rfl⟩
    · cases other <;> simp only [AgeUnit.seconds] <;> omega
  split
  · refine ⟨.minute, rfl, htells (.inl ?_) fun other => ?_⟩
    · simp only [AgeUnit.seconds]
      omega
    · cases other <;> simp only [AgeUnit.seconds] <;> omega
  split
  · refine ⟨.hour, rfl, htells (.inl ?_) fun other => ?_⟩
    · simp only [AgeUnit.seconds]
      omega
    · cases other <;> simp only [AgeUnit.seconds] <;> omega
  · refine ⟨.day, if_pos (by omega), htells (.inl ?_) fun other => ?_⟩
    · simp only [AgeUnit.seconds]
      omega
    · cases other <;> simp only [AgeUnit.seconds] <;> omega

namespace Tells

variable {e e' n n' : Nat} {unit unit' : AgeUnit}

/-- An older age is not told in a smaller unit. -/
theorem unit_mono (h : Tells e n unit) (h' : Tells e' n' unit') (he : e ≤ e') : unit.seconds ≤ unit'.seconds := by
  rcases h.filled with hfilled | ⟨-, rfl⟩
  · exact h'.largest unit (Nat.le_trans hfilled he)
  · exact unit'.seconds_pos

/-- An older age is not told as a shorter time. -/
theorem mono (h : Tells e n unit) (h' : Tells e' n' unit') (he : e ≤ e') : n * unit.seconds ≤ n' * unit'.seconds := by
  rcases Nat.lt_or_ge unit.seconds unit'.seconds with hlt | hge
  · -- What is told in a smaller unit does not fill the larger one, which the older age fills.
    have hyounger : e < unit'.seconds :=
      Nat.lt_of_not_le fun hfills => Nat.not_le_of_lt hlt (h.largest unit' hfills)
    have holder : unit'.seconds ≤ e' := by
      rcases h'.filled with hfilled | ⟨-, rfl⟩
      · exact hfilled
      · exact absurd unit.seconds_pos (Nat.not_lt_of_le (Nat.le_of_lt_succ hlt))
    have hone : 1 ≤ n' := Nat.pos_of_ne_zero fun hn => by
      have hlt' := h'.lt
      rw [hn] at hlt'
      omega
    calc n * unit.seconds ≤ e := h.le
      _ ≤ unit'.seconds := Nat.le_of_lt hyounger
      _ = 1 * unit'.seconds := (Nat.one_mul _).symm
      _ ≤ n' * unit'.seconds := Nat.mul_le_mul_right _ hone
  · have hunit := Nat.le_antisymm (h.unit_mono h' he) hge
    have hcount : n * unit'.seconds < (n' + 1) * unit'.seconds :=
      calc n * unit'.seconds = n * unit.seconds := by rw [hunit]
        _ ≤ e := h.le
        _ ≤ e' := he
        _ < (n' + 1) * unit'.seconds := h'.lt
    have hle : n ≤ n' := Nat.le_of_lt_succ (Nat.lt_of_mul_lt_mul_right hcount)
    rw [hunit]
    exact Nat.mul_le_mul_right _ hle

/-- An age is told in one way. -/
theorem unique (h : Tells e n unit) (h' : Tells e n' unit') : n = n' ∧ unit = unit' := by
  have hunit : unit = unit' :=
    AgeUnit.seconds_inj (Nat.le_antisymm (h.unit_mono h' (Nat.le_refl e)) (h'.unit_mono h (Nat.le_refl e)))
  subst hunit
  have hcount := Nat.le_antisymm (h.mono h' (Nat.le_refl e)) (h'.mono h (Nat.le_refl e))
  exact ⟨Nat.eq_of_mul_eq_mul_right unit.seconds_pos hcount, rfl⟩

end Tells

/-! ## Ages as texts -/

theorem toList_agoText (amount : Nat) (unit : AgeUnit) :
    (agoText amount unit).toList =
      numeral amount ++ ' ' :: (unit.name ++ (if amount = 1 then "" else "s") ++ " ago").toList := by
  simp [agoText]

/-- The text of an age tells number and unit. -/
theorem agoText_inj {m n : Nat} {unit unit' : AgeUnit} (h : agoText m unit = agoText n unit') :
    m = n ∧ unit = unit' := by
  have hlist := congrArg String.toList h
  rw [toList_agoText, toList_agoText] at hlist
  obtain ⟨rfl, hrest⟩ := numeral_append_inj (noDigitFirst_cons (by decide)) (noDigitFirst_cons (by decide)) hlist
  have hname := String.toList_inj.1 (List.cons.inj hrest).2
  rw [String.append_left_inj, String.append_left_inj] at hname
  refine ⟨rfl, ?_⟩
  cases unit <;> cases unit' <;> first | rfl | exact absurd hname (by decide)

/-- An age begins with a digit and a date with the name of a month. -/
theorem agoText_ne_shortText (amount : Nat) (unit : AgeUnit) (c : CivilTime) :
    agoText amount unit ≠ .ofList c.shortText := by
  intro h
  have hlist := congrArg String.toList h
  obtain ⟨d, ds, hnumeral⟩ := List.exists_cons_of_ne_nil (numeral_ne_nil amount)
  have hdigit : isDigit d = true := isDigit_of_mem_numeral (n := amount) (by rw [hnumeral]; exact List.mem_cons_self)
  obtain ⟨l, ls, hmonth, hletter⟩ : ∃ l ls, monthName c.date.month = l :: ls ∧ isDigit l = false := by
    unfold monthName
    split <;> exact ⟨_, _, rfl, by decide⟩
  rw [toList_agoText, String.toList_ofList, CivilTime.shortText, Date.monthAndDayText, hnumeral, hmonth] at hlist
  rw [(List.cons.inj hlist).1, hletter] at hdigit
  cases hdigit

/-! ## Timestamps -/

section Timestamps

variable {t : String} {i now : Instant}

theorem showAge_of_age_lt (hi : i.nanos < 1000000000) (hnow : now.nanos < 1000000000) (h : i.age now < 604800)
    (zone : Int) : ∃ n unit, Tells (i.age now) n unit ∧ i.showAge now zone = agoText n unit := by
  obtain ⟨unit, hunit, htells⟩ := exists_ageUnit h
  refine ⟨_, unit, htells, ?_⟩
  simp only [Instant.showAge, secondsSince_toNat hi hnow, hunit]

theorem showAge_of_le_age (hi : i.nanos < 1000000000) (hnow : now.nanos < 1000000000) (h : 604800 ≤ i.age now)
    (zone : Int) : i.showAge now zone = .ofList (i.civil zone).shortText := by
  rw [← secondsSince_toNat hi hnow] at h
  exact showAge_of_week (by omega)

/-- What is shown as an age is the age, and less than a week. -/
theorem tells_of_showAge (hi : i.nanos < 1000000000) (hnow : now.nanos < 1000000000) {zone : Int} {n : Nat}
    {unit : AgeUnit} (h : i.showAge now zone = agoText n unit) : i.age now < 604800 ∧ Tells (i.age now) n unit := by
  rcases Nat.lt_or_ge (i.age now) 604800 with hlt | hge
  · obtain ⟨m, unit', htells, hshown⟩ := showAge_of_age_lt hi hnow hlt zone
    obtain ⟨rfl, rfl⟩ := agoText_inj (hshown.symm.trans h)
    exact ⟨hlt, htells⟩
  · rw [showAge_of_le_age hi hnow hge] at h
    exact absurd h.symm (agoText_ne_shortText n unit _)

/-- Let a timestamp be read as an instant, and neither this nor the present be a leap second. If the instant is less
    than a week old, counted in whole seconds and none for what lies ahead, the timestamp is shown as its age: a number
    of the largest unit that the age fills, as many as fit into it, with an `s` unless it is one. Otherwise it is shown
    as its date and minute in the zone. What is shown as an age is the age of the instant, so at one time no older
    instant is ever shown as a lesser age. -/
theorem relative_age (h : readTimestamp t = some i) (hi : i.nanos < 1000000000) (hnow : now.nanos < 1000000000)
    (zone : Int) :
    (i.age now < 604800 → ∃ n unit, Tells (i.age now) n unit ∧ showRelative t now zone =
      String.ofList (numeral n) ++ " " ++ unit.name ++ (if n = 1 then "" else "s") ++ " ago") ∧
    (604800 ≤ i.age now → showRelative t now zone = .ofList (i.civil zone).shortText) ∧
    (∀ n unit, showRelative t now zone = agoText n unit → i.age now < 604800 ∧ Tells (i.age now) n unit) ∧
    ∀ t' i', readTimestamp t' = some i' → i'.nanos < 1000000000 → i'.le i = true →
      ∀ n unit n' unit', showRelative t now zone = agoText n unit → showRelative t' now zone = agoText n' unit' →
        n * unit.seconds ≤ n' * unit'.seconds := by
  rw [showRelative_of_read h]
  refine ⟨fun hlt => showAge_of_age_lt hi hnow hlt zone, fun hge => showAge_of_le_age hi hnow hge zone,
    fun n unit hshown => tells_of_showAge hi hnow hshown, ?_⟩
  intro t' i' h' hi' hle n unit n' unit' hshown hshown'
  rw [showRelative_of_read h'] at hshown'
  obtain ⟨-, htells⟩ := tells_of_showAge hi hnow hshown
  obtain ⟨-, htells'⟩ := tells_of_showAge hi' hnow hshown'
  exact htells.mono htells' (age_le_age hi hi' hle now)

/-- A nanosecond short of an hour ago it was 59 minutes ago, seven hours to the east; a week ago it is a date. -/
theorem relative_age_east :
    let now : Instant := ⟨1762948800, 0⟩
    readTimestamp "2025-11-12T18:00:00.000000001+07:00" = some ⟨1762945200, 1⟩ ∧
      showRelative "2025-11-12T18:00:00.000000001+07:00" now 25200 = "59 minutes ago" ∧
      showRelative "2025-11-05 12:00:00" now 25200 = "Nov 5, 07:00 PM" := by
  intro now
  have hread : readTimestamp "2025-11-12T18:00:00.000000001+07:00" = some ⟨1762945200, 1⟩ := by decide +kernel
  have hread' : readTimestamp "2025-11-05 12:00:00" = some ⟨1762344000, 0⟩ := by decide +kernel
  have hnow : now.nanos < 1000000000 := by decide
  obtain ⟨n, unit, htells, hshown⟩ := (relative_age hread (by decide) hnow 25200).1 (by decide)
  have hminutes : Tells 3599 59 .minute :=
    ⟨.inl (by decide), fun other => by cases other <;> decide, by decide, by decide⟩
  have hage : (⟨1762945200, 1⟩ : Instant).age now = 3599 := by decide
  rw [hage] at htells
  obtain ⟨rfl, rfl⟩ := htells.unique hminutes
  have hdate := (relative_age hread' (by decide) hnow 25200).2.1 (by decide)
  exact ⟨hread, hshown.trans (by decide +kernel), hdate.trans (by decide +kernel)⟩

end Timestamps

end ClusterPanel.Time
