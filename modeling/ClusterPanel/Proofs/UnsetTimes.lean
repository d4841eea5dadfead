import ClusterPanel.Proofs.EventLines
import ClusterPanel.Proofs.TimestampSpellings

/- The zero time, which stands for a time that was never set. However it is spelled, it is shown as missing where
   timestamps are resolved before they are shown, as an absolute time and as a short date. An age is told of every
   timestamp that can be read, so there it is shown like any other instant of its year, in event lines too, and never
   as missing (`unset_shown`, `unset_shown_as_date`). -/
namespace ClusterPanel.Time

open Text

variable {t : String} {i now : Instant} {zone : Int}

theorem length_shortText (c : CivilTime) : 3 < c.shortText.length := by
  unfold CivilTime.shortText Date.monthAndDayText
  simp only [List.length_append, List.length_cons, length_monthName]
  omega

theorem length_agoText (amount : Nat) (unit : AgeUnit) : 3 < (agoText amount unit).length := by
  have hago : " ago".length = 4 := rfl
  simp only [agoText, String.length_append, hago]
  omega

/-- An age is never shown as missing. -/
theorem showAge_ne_notAvailable : i.showAge now zone ≠ notAvailable := by
  have hlength : 3 < (i.showAge now zone).length := by
    unfold Instant.showAge
    dsimp only
    split
    · exact length_agoText _ _
    · rw [String.length_ofList]
      exact length_shortText _
  intro h
  rw [h] at hlength
  exact absurd hlength (by decide)

/-- From a week on, an instant is shown as its date instead of its age. -/
theorem showAge_of_week (h : 604800 ≤ now.secondsSince i) : i.showAge now zone = .ofList (i.civil zone).shortText := by
  have hunit : ageUnit? (now.secondsSince i).toNat = none := by
    unfold ageUnit?
    rw [if_neg (by omega), if_neg (by omega), if_neg (by omega), if_neg (by omega)]
  simp only [Instant.showAge, hunit]

theorem showRelative_of_read (h : readTimestamp t = some i) (now : Instant) (zone : Int) :
    showRelative t now zone = i.showAge now zone := by
  simp only [showRelative, h]

/-- A timestamp that reads as the zero time, in any spelling, is shown as missing among absolute times and short dates.
    Its age is told like that of any instant: from a week on as the date that the zero time has in the zone, and never
    as missing; and this is what an event line with that timestamp shows. -/
theorem unset_shown (h : readTimestamp t = some .unset) (now : Instant) (zone : Int) :
    showAbsolute (some t) zone = notAvailable ∧ showShortDate (some t) now zone = notAvailable ∧
      showRelative t now zone ≠ notAvailable ∧
      (604800 ≤ now.secondsSince .unset → showRelative t now zone = .ofList (Instant.unset.civil zone).shortText) ∧
      ∀ line, (EventRecord.ofLine line now zone).timestamp = some t →
        (EventRecord.ofLine line now zone).formattedTime = showRelative t now zone := by
  have hresolve : resolve (some t) = .missing := resolve_of_readTimestamp h
  have hage := showRelative_of_read h now zone
  refine ⟨?_, ?_, ?_, ?_, fun line => formattedTime_of_timestamp⟩
  · simp only [showAbsolute, hresolve]
  · simp only [showShortDate, hresolve]
  · rw [hage]
    exact showAge_ne_notAvailable
  · intro hweek
    rw [hage]
    exact showAge_of_week hweek

/-- Seven hours to the east the zero time is the seventh hour of its day. -/
theorem unset_shown_east :
    let t := " 0001-01-01T07:00:00.000+07:00\n"
    let now : Instant := ⟨1762948800, 0⟩
    readTimestamp t = some .unset ∧ showAbsolute (some t) 25200 = "N/A" ∧
      showRelative t now 25200 = .ofList (Instant.unset.civil 25200).shortText := by
  intro t now
  have hread : readTimestamp t = some .unset := by decide +kernel
  obtain ⟨habsolute, -, -, hweek, -⟩ := unset_shown hread now 25200
  exact ⟨hread, habsolute, hweek (by decide)⟩

/-- The age of the zero time is a date in January, where a time that was never set should be missing. -/
theorem unset_shown_as_date :
    let now : Instant := ⟨1762948800, 0⟩
    readTimestamp "0001-01-01T00:00:00Z" = some .unset ∧
      showRelative "0001-01-01T00:00:00Z" now 0 = "Jan 1, 12:00 AM" ∧
      (EventRecord.ofLine "[0001-01-01T00:00:00Z] queued" now 0).formattedTime = "Jan 1, 12:00 AM" ∧
      notAvailable ≠ "Jan 1, 12:00 AM" := by
  decide +kernel

end ClusterPanel.Time
