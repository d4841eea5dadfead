import ClusterPanel.Proofs.DistinctDates
import ClusterPanel.Proofs.HeldInstants
import ClusterPanel.Proofs.OneRequest
import ClusterPanel.Proofs.WireRecords

/- How expiries are shown. A session's expiry is written as a text before it is shown, and the text is read like any
   timestamp. A year of four digits comes back, so the expiry is shown in full (`readTimestamp_rfc3339`). Any other year
   is written with a sign, and that no layout of timestamps takes together with an offset: only a year can take a plus
   sign (`Item.plus_mem`), and the offset has another one (`readTimestamp_rfc3339_eq_none`). So from the year 10000 on,
   and before the year 0, the text itself is shown (`expiry_shown`, `long_expiry_unread`). -/
namespace ClusterPanel

open Json Text

namespace Time

/-! ## Plus signs -/

/-- The items of a layout that do not take a plus sign: all but a year of any length. -/
def Item.LeavesPlus : Item → Prop
  | .loose .year => False
  | .mark c => c ≠ '+'
  | .oneOf cs => '+' ∉ cs
  | _ => True

section Plus

variable {s r : List Char}

theorem plus_mem_takeDigits (n : Nat) (h : '+' ∈ s) : '+' ∈ (takeDigits n s).2 := by
  rw [← takeDigits_append n s, List.mem_append] at h
  rcases h with h | h
  · exact absurd ((takeDigits_digits n s).2 _ h) (by decide)
  · exact h

theorem plus_mem_trimStart (h : '+' ∈ s) : '+' ∈ trimStart s := mem_dropWhile (by decide) h

theorem plus_mem_readNumber {min max n : Nat} (h : '+' ∈ s) (hread : readNumber min max s = .ok (n, r)) : '+' ∈ r := by
  unfold readNumber at hread
  dsimp only at hread
  split at hread
  · cases hread
  · cases hread
    exact plus_mem_takeDigits max h

theorem plus_mem_readFraction {n : Nat} (h : '+' ∈ s) (hread : readFraction s = .ok (n, r)) : '+' ∈ r := by
  unfold readFraction at hread
  dsimp only at hread
  split at hread
  · cases hread
  · cases hread
    exact mem_dropWhile (by decide) (plus_mem_takeDigits 9 h)

/-- A plus sign that stands in a text stands in what is left of it as well. -/
theorem Item.plus_mem {item : Item} (hitem : item.LeavesPlus) {x x' : Reading} (h : '+' ∈ s)
    (hread : item.read x s = .ok (x', r)) : '+' ∈ r := by
  cases item with
  | exact f width =>
    obtain ⟨p, hnumber, hread⟩ := bind_eq_ok hread
    obtain ⟨y, -, hread⟩ := bind_eq_ok hread
    cases hread
    exact plus_mem_readNumber h hnumber
  | loose f =>
    cases f with
    | year => exact hitem.elim
    | month | day | hour | minute | second =>
      obtain ⟨p, hnumber, hread⟩ := bind_eq_ok hread
      obtain ⟨y, -, hread⟩ := bind_eq_ok hread
      cases hread
      exact plus_mem_readNumber (plus_mem_trimStart h) hnumber
  | mark c =>
    simp only [Item.read] at hread
    split at hread
    · cases hread
    · next d t =>
      split at hread
      · next hmark =>
        cases hread
        exact List.mem_of_ne_of_mem (fun hplus => hitem (hmark.symm.trans hplus.symm)) h
      · cases hread
  | oneOf cs =>
    simp only [Item.read] at hread
    split at hread
    · cases hread
    · next d t =>
      split at hread
      · next hmark =>
        cases hread
        have hne : '+' ≠ d := fun hplus => hitem (hplus ▸ List.contains_iff_mem.1 hmark)
        exact List.mem_of_ne_of_mem hne h
      · cases hread
  | blanks =>
    cases hread
    exact plus_mem_trimStart h
  | fraction =>
    simp only [Item.read] at hread
    split at hread
    · next t =>
      obtain ⟨p, hfraction, hread⟩ := map_eq_ok hread
      cases hread
      exact plus_mem_readFraction (List.mem_of_ne_of_mem (by decide) h) hfraction
    · cases hread
      exact h

theorem readItems_plus_mem {items : List Item} (hitems : ∀ item ∈ items, item.LeavesPlus) {x x' : Reading}
    (h : '+' ∈ s) (hread : readItems items x s = .ok (x', r)) : '+' ∈ r := by
  induction items generalizing x s with
  | nil =>
    cases hread
    exact h
  | cons item items ih =>
    obtain ⟨p, hfirst, hread⟩ := bind_eq_ok hread
    have hplus := Item.plus_mem (hitems item List.mem_cons_self) h hfirst
    exact ih (fun i hi => hitems i (List.mem_cons_of_mem _ hi)) hplus hread

end Plus

/-! ## Years of other than four digits -/

variable {i : Instant}

/-- Where the year has a sign there is no year of four digits. -/
theorem readStrict_sign {c : Char} (hc : isDigit c = false) (s : List Char) :
    (readStrict (c :: s)).toOption = none := by
  have hnumber : readNumber 4 4 (c :: s) = .error (if (c :: s).length < 4 then .tooShort else .invalid) := by
    simp [readNumber, takeDigits, hc]
  simp only [readStrict, strictLayout, readItems, Item.read, hnumber, bind, Except.bind]
  rfl

/-- A layout that begins with the year and has no offset does not read a text that has one. -/
theorem readPlain_offset {items : List Item} (hitems : ∀ item ∈ items, item.LeavesPlus) (y : Int) {r : List Char}
    (hr : NoDigitFirst r) (hplus : '+' ∈ r) :
    (readPlain (.loose .year :: items) (yearText y ++ r)).toOption = none := by
  cases hread : readPlain (.loose .year :: items) (yearText y ++ r) with
  | error e => rfl
  | ok i =>
    obtain ⟨p, hlayout, hrest⟩ := bind_eq_ok hread
    obtain ⟨q, hyear, hlayout⟩ := bind_eq_ok hlayout
    -- Behind the year the text is as it was, and the sign of the offset is left of it at the end.
    simp only [Item.read, readSigned_yearText y hr] at hyear
    obtain ⟨z, -, hyear⟩ := bind_eq_ok (f := fun z => Except.ok (z, r)) hyear
    cases hyear
    have hleft := readItems_plus_mem hitems hplus hlayout
    rw [if_neg (by rw [List.isEmpty_iff]; exact List.ne_nil_of_mem hleft)] at hrest
    cases hrest

/-- The text of an instant, from behind the year on. -/
def Instant.behindYear (i : Instant) : List Char :=
  '-' :: (paddedDigits 2 (i.civil 0).date.month ++ '-' :: (paddedDigits 2 (i.civil 0).date.day ++ 'T' ::
    (paddedDigits 2 (i.civil 0).hour ++ ':' :: (paddedDigits 2 (i.civil 0).minute ++ ':' ::
      (paddedDigits 2 (i.civil 0).shownSecond ++ (fractionText ((i.civil 0).nanos % 1000000000) ++
        ['+', '0', '0', ':', '0', '0']))))))

theorem toList_rfc3339 (i : Instant) : i.rfc3339.toList = yearText (i.civil 0).date.year ++ i.behindYear := by
  simp [Instant.rfc3339, CivilTime.text, Date.text, Instant.behindYear]

/-- The text of such a year begins with a sign, and so the text of the instant. -/
theorem exists_sign_rfc3339 (hy : ¬(0 ≤ (i.civil 0).date.year ∧ (i.civil 0).date.year ≤ 9999)) :
    ∃ c s, i.rfc3339.toList = c :: s ∧ isDigit c = false ∧ isBlank c = false := by
  rw [toList_rfc3339, yearText, if_neg (by simpa using hy)]
  refine ⟨_, _, rfl, ?_⟩
  split <;> decide

theorem trim_rfc3339 (hy : ¬(0 ≤ (i.civil 0).date.year ∧ (i.civil 0).date.year ≤ 9999)) :
    trim i.rfc3339.toList = i.rfc3339.toList := by
  obtain ⟨c, s, hcons, -, hblank⟩ := exists_sign_rfc3339 hy
  have hfirst : ∀ d ∈ i.rfc3339.toList.head?, isBlank d = false := by
    intro d hd
    rw [hcons] at hd
    cases hd
    exact hblank
  have hlast : ∀ d ∈ i.rfc3339.toList.getLast?, isBlank d = false := by
    intro d hd
    rw [Instant.rfc3339, String.toList_ofList, List.getLast?_append] at hd
    cases hd
    decide
  have hnone : ∀ c ∈ ([] : List Char), isBlank c = true := List.forall_mem_nil _
  have htrim := trim_between hnone hnone hfirst hlast (by rw [hcons]; exact List.cons_ne_nil c s)
  rwa [List.append_nil, List.nil_append] at htrim

/-- Where the year is written with a sign, the text of an instant is read by no layout. -/
theorem readTimestamp_rfc3339_eq_none (hy : ¬(0 ≤ (i.civil 0).date.year ∧ (i.civil 0).date.year ≤ 9999)) :
    readTimestamp i.rfc3339 = none := by
  obtain ⟨c, s, hcons, hdigit, -⟩ := exists_sign_rfc3339 hy
  have hstrict : (readStrict i.rfc3339.toList).toOption = none := by
    rw [hcons]
    exact readStrict_sign hdigit s
  have hplain (spaced : Bool) : (readPlain (plainLayout spaced) i.rfc3339.toList).toOption = none := by
    have hplus : '+' ∈ i.behindYear := by simp [Instant.behindYear]
    have hleaves : ∀ item ∈ (plainLayout spaced).tail, item.LeavesPlus := by
      cases spaced <;> simp [plainLayout, Item.LeavesPlus]
    rw [toList_rfc3339]
    exact readPlain_offset hleaves _ (noDigitFirst_cons (by decide)) hplus
  unfold readTimestamp
  dsimp only
  rw [trim_rfc3339 hy, if_neg (by rw [hcons]; exact Bool.false_ne_true), plainLayouts_eq]
  simp only [firstReading, List.map_cons, List.map_nil, List.findSome?_cons, List.findSome?_nil, hstrict, hplain]

theorem resolve_rfc3339_unread (hy : ¬(0 ≤ (i.civil 0).date.year ∧ (i.civil 0).date.year ≤ 9999)) :
    resolve (some i.rfc3339) = .unreadable i.rfc3339 := by
  obtain ⟨c, s, hcons, -, hblank⟩ := exists_sign_rfc3339 hy
  have hshown : isBlankText i.rfc3339 = false := by
    rw [isBlankText, hcons, List.all_cons, hblank]
    rfl
  simp only [resolve, hshown, readTimestamp_rfc3339_eq_none hy]
  rfl

/-! ## Shown expiries -/

/-- Where the year has four digits, the text of an instant is read as the instant. -/
theorem readTimestamp_rfc3339 (hn : i.nanos < 1000000000)
    (hy : 0 ≤ (i.civil 0).date.year ∧ (i.civil 0).date.year ≤ 9999) : readTimestamp i.rfc3339 = some i := by
  obtain ⟨s, hspells, htext⟩ := exists_spelling_rfc3339 hn hy
  rw [← htext]
  exact (readTimestamp_spelling hn hspells).1

/-- The text of an instant is shown as the instant if its year has four digits, and as it stands if not. -/
theorem showAbsolute_rfc3339 (hn : i.nanos < 1000000000) (hset : i.isUnset = false) (zone : Int) :
    showAbsolute (some i.rfc3339) zone =
      if 0 ≤ (i.civil 0).date.year ∧ (i.civil 0).date.year ≤ 9999 then .ofList (i.civil zone).absoluteText
      else i.rfc3339 := by
  split
  · next hy => exact showAbsolute_of_read (readTimestamp_rfc3339 hn hy) hset zone
  · next hy => simp only [showAbsolute, resolve_rfc3339_unread hy]

theorem absoluteText_ne_notAvailable (c : CivilTime) : String.ofList c.absoluteText ≠ notAvailable := by
  have hlength : 3 < (String.ofList c.absoluteText).length := by
    simp only [String.length_ofList, CivilTime.absoluteText, Date.monthAndDayText, List.length_append,
      List.length_cons, length_monthName]
    omega
  intro h
  rw [h] at hlength
  exact absurd hlength (by decide)

theorem rfc3339_ne_notAvailable (i : Instant) : i.rfc3339 ≠ notAvailable := by
  have hlength : 3 < i.rfc3339.length := by
    simp only [Instant.rfc3339, String.length_ofList, List.length_append, List.length_cons]
    omega
  intro h
  rw [h] at hlength
  exact absurd hlength (by decide)

end Time

open Time

/-- Let a session be logged in, and its expiry neither the zero time nor a leap second. Who asks for the session is
    shown the same expiry as who just logged in with it, and it is never `N/A`. It is the instant itself, by calendar
    and clock of the zone, if its year has four digits in Coordinated Universal Time; otherwise it is the text of the
    instant as it stands. -/
theorem expiry_shown {s : Session} {i : Instant} (ha : s.isAuthenticated = true) (hi : s.expiresAt = some i)
    (hn : i.nanos < 1000000000) (hset : i.isUnset = false) (clock : Clock) :
    ∃ expiry, (0 ≤ (i.civil 0).date.year ∧ (i.civil 0).date.year ≤ 9999 →
        expiry = .ofList (i.civil clock.zone).absoluteText) ∧
      (¬(0 ≤ (i.civil 0).date.year ∧ (i.civil 0).date.year ≤ 9999) → expiry = i.rfc3339) ∧ expiry ≠ notAvailable ∧
      (∀ c : Client, c.store.current = s → ∃ shown, c.run .table clock .whoami = ⟨.shown shown, c, shown.table⟩ ∧
        shown.table = line ("Username:  " ++ s.username.getD "-") ++
          line ("Expires:   " ++ expiry ++ if s.isExpired clock.now then " (expired)" else "")) ∧
      ∀ (c c' : Client) (username password : String), isBlankText username = false →
        c.login ⟨username, password⟩ clock.now = (.ok (some s), c') →
        ∃ shown, c.run .table clock (.login username password) = ⟨.shown shown, c', shown.table⟩ ∧
          shown.table = line ("✓ Logged in as " ++ s.username.getD username ++ " (expires " ++ expiry ++ ")") := by
  have hexpiry : showAbsolute s.expiryText clock.zone = showAbsolute (some i.rfc3339) clock.zone := by
    rw [Session.expiryText, hi]
    rfl
  refine ⟨showAbsolute s.expiryText clock.zone, ?_, ?_, ?_, ?_, ?_⟩
  · intro hy
    rw [hexpiry, showAbsolute_rfc3339 hn hset, if_pos hy]
  · intro hy
    rw [hexpiry, showAbsolute_rfc3339 hn hset, if_neg hy]
  · rw [hexpiry, showAbsolute_rfc3339 hn hset]
    split
    · exact absoluteText_ne_notAvailable _
    · exact rfc3339_ne_notAvailable i
  · rintro c rfl
    refine ⟨c.store.current.shown clock, ?_, ?_⟩
    · have hrun : c.run .table clock .whoami =
          ⟨.shown (c.store.current.shown clock), c, "" ++ (c.store.current.shown clock).table⟩ := rfl
      rw [hrun, String.empty_append]
    · simp only [Session.shown, Session.table, ha]
      rfl
  · intro c c' username password hname hlogin
    refine ⟨s.opened .table clock username, CommandM.runOn_login_some hname hlogin, ?_⟩
    have hmark : "✓ Logged in as " = "✓ " ++ "Logged in as " := by decide
    rw [hmark]
    simp only [Session.opened, Message.shown, if_true, String.append_assoc]

/-- The last second of the year 9999 is shown seven hours to the east, in a year that has five digits there. It is shown
    so to who asks for the session, and to who logs in, at the hour before, for an hour. -/
theorem expiry_shown_east :
    let s : Session := { token := some "tok", username := some "ada", expiresAt := some ⟨253402300799, 0⟩ }
    let clock : Clock := ⟨⟨253402297199, 0⟩, 25200⟩
    let c : Client := { base := "http://centro.test/api/v1", store := { current := s, storage := .memory none {} } }
    let answer : LoginResponse := ⟨"tok", 3600, "ada"⟩
    let reply := Http.Reply.response 200 (bytesOf answer.toValue.compact)
    let c₀ := Client.create "http://centro.test/api/v1" (.memory none {}) [reply]
    (c.run .table clock .whoami).output = "Username:  ada\nExpires:   Jan 1, +10000, 06:59:59 AM\n" ∧
      (c₀.run .table clock (.login "ada" "pw")).output =
        "✓ Logged in as ada (expires Jan 1, +10000, 06:59:59 AM)\n" := by
  intro s clock c answer reply c₀
  obtain ⟨expiry, hshown, -, -, hwhoami, hlogin⟩ :=
    expiry_shown (s := s) (by decide) rfl (by decide) (by decide) clock
  have hexpiry := hshown (by decide +kernel)
  obtain ⟨shown, hrun, htable⟩ := hwhoami c rfl
  have hread : Json.readAll LoginResponse.shape.read (bytesOf answer.toValue.compact) = .ok answer :=
    Json.readAll_of_reads (LoginResponse.reads ⟨by decide, by decide⟩)
  obtain ⟨c', hopened⟩ : ∃ c', c₀.login ⟨"ada", "pw"⟩ clock.now = (.ok (some s), c') :=
    Client.login_of_reply rfl rfl hread (by decide)
  obtain ⟨shown', hrun', htable'⟩ := hlogin c₀ c' "ada" "pw" (by decide) hopened
  rw [hexpiry] at htable htable'
  rw [hrun, hrun']
  exact ⟨htable.trans (by decide +kernel), htable'.trans (by decide +kernel)⟩

/-- A lifetime that ends with the first second of the year 10000. The session has an expiry, and what is shown of it is
    not the instant by calendar and clock but its text. -/
theorem long_expiry_unread :
    let now : Instant := ⟨1762948800, 0⟩
    let expiry : Instant := ⟨253402300800, 0⟩
    ∃ s, Session.ofLogin ⟨"tok", 251639352000, "ada"⟩ now = some s ∧ s.isAuthenticated = true ∧
      s.expiresAt = some expiry ∧ expiry.isUnset = false ∧
      s.table ⟨now, 0⟩ = "Username:  ada\nExpires:   +10000-01-01T00:00:00+00:00\n" ∧
      String.ofList (expiry.civil 0).absoluteText = "Jan 1, +10000, 12:00:00 AM" := by
  intro now expiry
  refine ⟨_, rfl, by decide, by decide, by decide, by decide +kernel, by decide +kernel⟩

end ClusterPanel
