import ClusterPanel.Proofs.Timestamps
import ClusterPanel.Time.EventLine

/- How event lines are split. A bracket opens where a `[` is followed by a `]` on the same line (`IsOpening`). A line
   in which none opens is all message. Any other divides in one way into what stands before the first bracket that
   opens, the timestamp, the gap behind its closing bracket, the message, and what follows a line feed
   (`LineParts`), and its record has the timestamp and the message (`ofLine_parts`). -/
namespace ClusterPanel.Time

open Text

variable {s t r : List Char} {c : Char}

/-- A bracket opens at place `i`: a `[` stands there, and a `]` after it with no line feed in between. -/
def IsOpening (s : List Char) (i : Nat) : Prop := ∃ t r, s.drop i = '[' :: (t ++ ']' :: r) ∧ '\n' ∉ t

/-- The parts of a line in which a bracket opens. -/
structure LineParts where
  before : List Char
  stamp : List Char
  gap : List Char
  message : List Char
  after : List Char

namespace LineParts

/-- What stands behind the timestamp. -/
def tail (p : LineParts) : List Char := p.gap ++ (p.message ++ p.after)

def text (p : LineParts) : List Char := p.before ++ '[' :: (p.stamp ++ ']' :: p.tail)

/-- The timestamp stands in the first bracket that opens and goes up to the first `]`; the gap has all the blanks
    behind it, line feeds too, and the message goes up to the next line feed. -/
structure Divides (p : LineParts) : Prop where
  first : ∀ i, i < p.before.length → ¬IsOpening p.text i
  stamp : ∀ c ∈ p.stamp, c ≠ ']' ∧ c ≠ '\n'
  gap : ∀ c ∈ p.gap, isBlank c = true
  start : ∀ c ∈ (p.message ++ p.after).head?, isBlank c = false
  message : ∀ c ∈ p.message, c ≠ '\n'
  after : ∀ c ∈ p.after.head?, c = '\n'

/-- The event that is recorded. -/
def record (p : LineParts) (now : Instant) (zone : Int) : EventRecord :=
  ⟨some (.ofList p.stamp), .ofList p.message, showRelative (.ofList p.stamp) now zone⟩

end LineParts

/-! ## Up to the closing bracket -/

theorem splitAtClosing_append (ht : ∀ c ∈ t, c ≠ ']' ∧ c ≠ '\n') (r : List Char) :
    splitAtClosing (t ++ ']' :: r) = some (t, r) := by
  induction t with
  | nil => rfl
  | cons c t ih =>
    obtain ⟨hclosing, hfeed⟩ := ht c List.mem_cons_self
    rw [List.cons_append, splitAtClosing, if_neg hclosing, if_neg hfeed, ih fun d hd => ht d (List.mem_cons_of_mem _ hd)]
    rfl

theorem splitAtClosing_eq_some (h : splitAtClosing s = some (t, r)) :
    s = t ++ ']' :: r ∧ ∀ c ∈ t, c ≠ ']' ∧ c ≠ '\n' := by
  induction s generalizing t with
  | nil => cases h
  | cons c s ih =>
    rw [splitAtClosing] at h
    split at h
    · next hc =>
      cases h
      exact ⟨by rw [hc, List.nil_append], fun d hd => absurd hd List.not_mem_nil⟩
    · next hclosing =>
      split at h
      · cases h
      · next hfeed =>
        obtain ⟨⟨t', r'⟩, hs, hp⟩ := Option.map_eq_some_iff.1 h
        cases hp
        obtain ⟨rfl, ht⟩ := ih hs
        exact ⟨rfl, List.forall_mem_cons.2 ⟨⟨hclosing, hfeed⟩, ht⟩⟩

/-- Any closing bracket on the line will do for there to be a first one. -/
theorem splitAtClosing_ne_none (ht : '\n' ∉ t) (r : List Char) : splitAtClosing (t ++ ']' :: r) ≠ none := by
  induction t with
  | nil => exact Option.some_ne_none _
  | cons c t ih =>
    rw [List.mem_cons, not_or] at ht
    rw [List.cons_append, splitAtClosing]
    split
    · exact Option.some_ne_none _
    · rw [if_neg (Ne.symm ht.1), ne_eq, Option.map_eq_none_iff]
      exact ih ht.2

/-! ## The first bracket that opens -/

theorem isOpening_zero : IsOpening (c :: s) 0 ↔ c = '[' ∧ splitAtClosing s ≠ none := by
  constructor
  · rintro ⟨t, r, hs, ht⟩
    obtain ⟨rfl, rfl⟩ := List.cons.inj hs
    exact ⟨rfl, splitAtClosing_ne_none ht r⟩
  · rintro ⟨rfl, hs⟩
    obtain ⟨⟨t, r⟩, hp⟩ := Option.ne_none_iff_exists'.1 hs
    obtain ⟨rfl, ht⟩ := splitAtClosing_eq_some hp
    exact ⟨t, r, rfl, fun h => (ht _ h).2 rfl⟩

theorem isOpening_iff {i : Nat} :
    IsOpening s i ↔ i < s.length ∧ s[i]? = some '[' ∧ splitAtClosing (s.drop (i + 1)) ≠ none := by
  rcases Nat.lt_or_ge i s.length with hi | hi
  · have hdrop : s.drop i = s[i] :: s.drop (i + 1) := List.drop_eq_getElem_cons hi
    have hzero : IsOpening s i ↔ IsOpening (s[i] :: s.drop (i + 1)) 0 := by rw [← hdrop]; rfl
    rw [hzero, isOpening_zero, List.getElem?_eq_getElem hi, Option.some_inj, and_iff_right hi]
  · refine iff_of_false ?_ fun h => absurd h.1 (Nat.not_lt.2 hi)
    rintro ⟨t, r, hs, -⟩
    rw [List.drop_eq_nil_of_le hi] at hs
    cases hs

instance (s : List Char) (i : Nat) : Decidable (IsOpening s i) := decidable_of_iff' _ isOpening_iff

theorem isOpening_succ {i : Nat} : IsOpening (c :: s) (i + 1) ↔ IsOpening s i := Iff.rfl

/-- What a line comes to whose first character opens no bracket. -/
theorem splitBracketed_cons (h : ¬IsOpening (c :: s) 0) : splitBracketed (c :: s) = splitBracketed s := by
  rw [splitBracketed]
  split
  · next hc =>
    cases hs : splitAtClosing s with
    | none => rfl
    | some p => exact absurd (isOpening_zero.2 ⟨hc, hs ▸ Option.some_ne_none p⟩) h
  · rfl

theorem splitBracketed_eq_none (h : ∀ i, ¬IsOpening s i) : splitBracketed s = none := by
  induction s with
  | nil => rfl
  | cons c s ih => rw [splitBracketed_cons (h 0), ih fun i => mt isOpening_succ.2 (h (i + 1))]

theorem splitBracketed_append {b : List Char} (hb : ∀ i, i < b.length → ¬IsOpening (b ++ '[' :: (t ++ ']' :: r)) i)
    (ht : ∀ c ∈ t, c ≠ ']' ∧ c ≠ '\n') : splitBracketed (b ++ '[' :: (t ++ ']' :: r)) = some (t, r) := by
  induction b with
  | nil => rw [List.nil_append, splitBracketed, if_pos rfl, splitAtClosing_append ht]
  | cons c b ih =>
    rw [List.cons_append] at hb ⊢
    rw [splitBracketed_cons (hb 0 (Nat.succ_pos _))]
    exact ih fun i hi => mt isOpening_succ.2 (hb (i + 1) (Nat.succ_lt_succ hi))

/-- A line in which a bracket opens has a first one that does. -/
theorem exists_first_opening {i : Nat} (h : IsOpening s i) :
    ∃ b t r, s = b ++ '[' :: (t ++ ']' :: r) ∧ (∀ i, i < b.length → ¬IsOpening s i) ∧
      ∀ c ∈ t, c ≠ ']' ∧ c ≠ '\n' := by
  induction s generalizing i with
  | nil =>
    obtain ⟨t, r, hs, -⟩ := h
    rw [List.drop_nil] at hs
    cases hs
  | cons c s ih =>
    by_cases hopen : IsOpening (c :: s) 0
    · obtain ⟨rfl, hs⟩ := isOpening_zero.1 hopen
      obtain ⟨⟨t, r⟩, hp⟩ := Option.ne_none_iff_exists'.1 hs
      obtain ⟨rfl, ht⟩ := splitAtClosing_eq_some hp
      exact ⟨[], t, r, rfl, fun i hi => absurd hi (Nat.not_lt_zero i), ht⟩
    · cases i with
      | zero => exact absurd h hopen
      | succ i =>
        obtain ⟨b, t, r, rfl, hb, ht⟩ := ih (isOpening_succ.1 h)
        refine ⟨c :: b, t, r, rfl, ?_, ht⟩
        intro i hi
        cases i with
        | zero => exact hopen
        | succ i => exact mt isOpening_succ.1 (hb i (Nat.lt_of_succ_lt_succ hi))

/-! ## Behind the closing bracket -/

theorem messageAfter_append {g m a : List Char} (hg : ∀ c ∈ g, isBlank c = true)
    (hs : ∀ c ∈ (m ++ a).head?, isBlank c = false) (hm : ∀ c ∈ m, c ≠ '\n') (ha : ∀ c ∈ a.head?, c = '\n') :
    messageAfter (g ++ (m ++ a)) = m := by
  have hstart : trimStart (g ++ (m ++ a)) = m ++ a := by
    rw [trimStart, List.dropWhile_append_of_pos hg]
    cases hma : m ++ a with
    | nil => rfl
    | cons c t =>
      rw [hma] at hs
      exact trimStart_of_head (hs c rfl)
  have hend : a.takeWhile (· != '\n') = [] := by
    cases a with
    | nil => rfl
    | cons c a =>
      rw [ha c rfl]
      rfl
  rw [messageAfter, hstart, List.takeWhile_append_of_pos fun c hc => bne_iff_ne.2 (hm c hc), hend, List.append_nil]

/-- Any text divides into blanks, a message and what follows a line feed. -/
theorem exists_message (s : List Char) :
    ∃ g m a, s = g ++ (m ++ a) ∧ (∀ c ∈ g, isBlank c = true) ∧ (∀ c ∈ (m ++ a).head?, isBlank c = false) ∧
      (∀ c ∈ m, c ≠ '\n') ∧ ∀ c ∈ a.head?, c = '\n' := by
  refine ⟨s.takeWhile isBlank, (trimStart s).takeWhile (· != '\n'), (trimStart s).dropWhile (· != '\n'), ?_, ?_, ?_, ?_, ?_⟩
  · rw [List.takeWhile_append_dropWhile]
    exact List.takeWhile_append_dropWhile.symm
  · exact List.all_eq_true.1 List.all_takeWhile
  · rw [List.takeWhile_append_dropWhile]
    intro c hc
    cases hs : trimStart s with
    | nil =>
      rw [hs] at hc
      cases hc
    | cons d t =>
      rw [hs] at hc
      cases hc
      exact head_trimStart hs
  · exact fun c hc => bne_iff_ne.1 (List.all_eq_true.1 List.all_takeWhile c hc)
  · intro c hc
    have hfeed := List.head?_dropWhile_not (· != '\n') (trimStart s)
    rw [hc] at hfeed
    exact by simpa using hfeed

/-! ## Lines -/

theorem exists_parts {i : Nat} (h : IsOpening s i) : ∃ p : LineParts, p.text = s ∧ p.Divides := by
  obtain ⟨b, t, r, rfl, hb, ht⟩ := exists_first_opening h
  obtain ⟨g, m, a, rfl, hg, hs, hm, ha⟩ := exists_message r
  exact ⟨⟨b, t, g, m, a⟩, rfl, hb, ht, hg, hs, hm, ha⟩

/-- The timestamp of a line that is divided stands in a bracket that opens. -/
theorem LineParts.Divides.isOpening {p : LineParts} (h : p.Divides) : IsOpening p.text p.before.length :=
  ⟨p.stamp, p.tail, List.drop_left, fun hfeed => (h.stamp _ hfeed).2 rfl⟩

/-- No bracket opens where none stands. -/
theorem not_isOpening_of_not_mem {b : List Char} (hb : '[' ∉ b) (s : List Char) {i : Nat} (hi : i < b.length) :
    ¬IsOpening (b ++ s) i := by
  intro h
  obtain ⟨-, hopen, -⟩ := isOpening_iff.1 h
  rw [List.getElem?_append_left hi] at hopen
  exact hb (List.mem_of_getElem? hopen)

/-- The time that is shown for a line is the age of its timestamp. -/
theorem formattedTime_of_timestamp {line stamp : String} {now : Instant} {zone : Int}
    (h : (EventRecord.ofLine line now zone).timestamp = some stamp) :
    (EventRecord.ofLine line now zone).formattedTime = showRelative stamp now zone := by
  unfold EventRecord.ofLine at h ⊢
  split at h
  · cases h
  · cases h
    rfl

/-- How a line is split. If no bracket opens in it, all of it is message, without a timestamp or an age. Otherwise it
    divides at the first bracket that opens; and a line that divides is recorded with the text between the brackets
    as timestamp, the message, and the age of the timestamp. So a line that is put together from a text without `[`,
    a timestamp in brackets, blanks and a message is split into this timestamp and this message. -/
theorem ofLine_parts (now : Instant) (zone : Int) :
    (∀ line : String, (∀ i, ¬IsOpening line.toList i) → EventRecord.ofLine line now zone = ⟨none, line, ""⟩) ∧
    (∀ (line : String) (i : Nat), IsOpening line.toList i → (∀ k, k < i → ¬IsOpening line.toList k) →
      ∃ p : LineParts, p.text = line.toList ∧ p.before.length = i ∧ p.Divides) ∧
    (∀ (line : String) (p : LineParts), p.text = line.toList → p.Divides → EventRecord.ofLine line now zone = p.record now zone) ∧
    ∀ before stamp gap message : List Char, '[' ∉ before → ']' ∉ stamp → '\n' ∉ stamp →
      (∀ c ∈ gap, isBlank c = true) → '\n' ∉ message → (∀ c ∈ message.head?, isBlank c = false) →
      EventRecord.ofLine (.ofList (before ++ '[' :: (stamp ++ ']' :: (gap ++ message)))) now zone =
        ⟨some (.ofList stamp), .ofList message, showRelative (.ofList stamp) now zone⟩ := by
  have hdivided (line : String) (p : LineParts) (htext : p.text = line.toList) (h : p.Divides) :
      EventRecord.ofLine line now zone = p.record now zone := by
    have hfirst : splitBracketed p.text = some (p.stamp, p.tail) := splitBracketed_append h.first h.stamp
    have hmessage : messageAfter p.tail = p.message := messageAfter_append h.gap h.start h.message h.after
    simp only [EventRecord.ofLine, ← htext, hfirst, hmessage, LineParts.record]
  refine ⟨?_, ?_, hdivided, ?_⟩
  · intro line h
    simp only [EventRecord.ofLine, splitBracketed_eq_none h]
  · intro line i hopen hleft
    obtain ⟨p, htext, h⟩ := exists_parts hopen
    rw [← htext] at hopen hleft
    refine ⟨p, htext, Nat.le_antisymm (Nat.le_of_not_lt fun hlt => h.first i hlt hopen) ?_, h⟩
    exact Nat.le_of_not_lt fun hlt => hleft _ hlt h.isOpening
  · intro before stamp gap message hb hclosing hfeed hg hm hs
    let p : LineParts := ⟨before, stamp, gap, message, []⟩
    have hp : p.Divides := by
      refine ⟨fun i hi => not_isOpening_of_not_mem hb _ hi, ?_, hg, ?_, ?_, fun c hc => by cases hc⟩
      · exact fun c hc => ⟨fun h => hclosing (h ▸ hc), fun h => hfeed (h ▸ hc)⟩
      · rwa [show p.message ++ p.after = message from List.append_nil _]
      · exact fun c hc h => hm (h ▸ hc)
    have htext : p.text = before ++ '[' :: (stamp ++ ']' :: (gap ++ message)) := by
      simp only [LineParts.text, LineParts.tail, p, List.append_nil]
    exact hdivided _ p (by rw [htext, String.toList_ofList]) hp

/-- A bracket that a line feed keeps from opening, one within the timestamp, a line feed in the gap and one behind the
    message; a line in which the only bracket does not open; and one that is put together. -/
theorem ofLine_parts_lines :
    let line := "a[b\n[x[y]\u00a0\nm] [c]\n[d]"
    let p : LineParts :=
      ⟨['a', '[', 'b', '\n'], ['x', '[', 'y'], ['\u00a0', '\n'], ['m', ']', ' ', '[', 'c', ']'], ['\n', '[', 'd', ']']⟩
    (∃ q : LineParts, q.text = line.toList ∧ q.before.length = 4 ∧ q.Divides) ∧
      EventRecord.ofLine line .unset 0 = p.record .unset 0 ∧
      EventRecord.ofLine "a]b[c\n]" .unset 0 = ⟨none, "a]b[c\n]", ""⟩ ∧
      EventRecord.ofLine "a [soon]  b" .unset 0 = ⟨some "soon", "b", "soon"⟩ := by
  intro line p
  obtain ⟨hbare, hfirst, hparts, hplain⟩ := ofLine_parts .unset 0
  have hm : isBlank 'm' = false := by decide
  have hb : isBlank 'b' = false := by decide
  have hp : p.Divides := {
    first := by decide
    stamp := by simp [p]
    gap := List.all_eq_true.1 (by decide)
    start := by simp [p, hm]
    message := by simp [p]
    after := by simp [p] }
  refine ⟨hfirst line 4 (by decide) (by decide), hparts line p (by decide) hp, hbare _ ?_, ?_⟩
  · have hnone : ∀ i, i < "a]b[c\n]".toList.length → ¬IsOpening "a]b[c\n]".toList i := by decide
    exact fun i hi => hnone i (isOpening_iff.1 hi).1 hi
  · exact hplain ['a', ' '] ['s', 'o', 'o', 'n'] [' ', ' '] ['b'] (by decide) (by decide) (by decide)
      (List.all_eq_true.1 (by decide)) (by decide) (by simp [hb])

end ClusterPanel.Time
