/- Blank space and ASCII letter case. `isBlank` is the Unicode property White_Space: 25 characters, more than
   the four of core's `Char.isWhitespace`, which are among them. `trim` drops the blanks at both ends of a text and
   nothing else; a text is blank when nothing is left of it (`trim_eq_nil_iff`). Letter case is folded for the ASCII
   letters alone. -/
namespace ClusterPanel.Text

/-- The code points with the property White_Space. -/
def blankPoints : List Nat :=
  [0x9, 0xA, 0xB, 0xC, 0xD, 0x20, 0x85, 0xA0, 0x1680, 0x2000, 0x2001, 0x2002, 0x2003, 0x2004, 0x2005, 0x2006,
   0x2007, 0x2008, 0x2009, 0x200A, 0x2028, 0x2029, 0x202F, 0x205F, 0x3000]

/-- A character with the property White_Space. -/
def isBlank (c : Char) : Bool := blankPoints.contains c.toNat

/-- The text without the blanks at its start. -/
def trimStart (s : List Char) : List Char := s.dropWhile isBlank

/-- The text without the blanks at its end. -/
def trimEnd (s : List Char) : List Char := (s.reverse.dropWhile isBlank).reverse

/-- The text without the blanks at both ends. -/
def trim (s : List Char) : List Char := trimEnd (trimStart s)

/-- The text without the character `c` at its end, however often it stands there. -/
def trimEndOf (c : Char) (s : List Char) : List Char := (s.reverse.dropWhile (· == c)).reverse

theorem dropWhile_eq_nil_iff {p : Char → Bool} {s : List Char} : s.dropWhile p = [] ↔ ∀ c ∈ s, p c = true := by
  induction s with
  | nil => simp
  | cons c s ih => by_cases h : p c = true <;> simp [h, ih]

/-- What is not dropped anywhere is kept wherever it stands. -/
theorem mem_dropWhile {p : Char → Bool} {c : Char} {s : List Char} (hc : p c = false) (h : c ∈ s) :
    c ∈ s.dropWhile p := by
  rw [← List.takeWhile_append_dropWhile (p := p) (l := s), List.mem_append] at h
  rcases h with h | h
  · rw [List.all_eq_true.1 List.all_takeWhile _ h] at hc
    cases hc
  · exact h

theorem trimStart_eq_nil_iff {s : List Char} : trimStart s = [] ↔ ∀ c ∈ s, isBlank c = true :=
  dropWhile_eq_nil_iff

theorem trimEnd_eq_nil_iff {s : List Char} : trimEnd s = [] ↔ ∀ c ∈ s, isBlank c = true := by
  rw [trimEnd, List.reverse_eq_nil_iff, dropWhile_eq_nil_iff]
  simp

theorem head_trimStart {s r : List Char} {c : Char} (h : trimStart s = c :: r) : isBlank c = false := by
  have := List.head?_dropWhile_not isBlank s
  rwa [show s.dropWhile isBlank = c :: r from h] at this

/-- Nothing is left of a text exactly when all of it is blank. -/
theorem trim_eq_nil_iff {s : List Char} : trim s = [] ↔ ∀ c ∈ s, isBlank c = true := by
  constructor
  · intro h
    rw [trim, trimEnd_eq_nil_iff] at h
    cases hs : trimStart s with
    | nil => exact trimStart_eq_nil_iff.1 hs
    | cons c r =>
      have hc := head_trimStart hs
      rw [hs] at h
      rw [h c (by simp)] at hc
      cases hc
  · intro h
    rw [trim, trimStart_eq_nil_iff.2 h]
    rfl

/-- Nothing but blanks. -/
def isBlankText (s : String) : Bool := s.toList.all isBlank

/-- The text without the blanks at both ends. -/
def trimText (s : String) : String := String.ofList (trim s.toList)

/-- The lower-case partner of an ASCII capital; any other character as it is. -/
def foldCase (c : Char) : Char := c.toLower

/-- Equal but for the case of ASCII letters. -/
def equalFold (s t : List Char) : Bool := s.map foldCase == t.map foldCase

def digitValue (c : Char) : Nat := c.toNat - 48

/-- Whether `c` is one of `0` to `9`. -/
def isDigit (c : Char) : Bool := 48 ≤ c.toNat && c.toNat ≤ 57

/-- The number that a list of digits spells in base ten, leading zeros allowed. -/
def decimalValue (ds : List Char) : Nat := ds.foldl (fun n d => n * 10 + digitValue d) 0

end ClusterPanel.Text
