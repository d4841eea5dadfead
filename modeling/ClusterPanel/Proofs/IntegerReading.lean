import ClusterPanel.Proofs.JsonReading
import ClusterPanel.Proofs.Timestamps

/- Printed integers read back. The digits of a numeral that fits into 64 bits are gathered all (`gather_digits`), and
   no numeral of more than one digit starts with a zero (`head_numeral`); so an integer is read of its numeral
   (`readInt64_integerNumeral`), where what follows does not go on with the number (`EndsNumber`). -/
namespace ClusterPanel

open Text

namespace Text

theorem digitChar_ne_zero {d : Nat} (h₀ : 0 < d) (h : d < 10) : d.digitChar ≠ '0' := by
  have : d = 1 ∨ d = 2 ∨ d = 3 ∨ d = 4 ∨ d = 5 ∨ d = 6 ∨ d = 7 ∨ d = 8 ∨ d = 9 := by omega
  rcases this with rfl | rfl | rfl | rfl | rfl | rfl | rfl | rfl | rfl <;> decide

/-- The numeral of a number other than zero does not start with zero. -/
theorem head_numeral {n : Nat} (h : 0 < n) {c : Char} {ds : List Char} (hn : numeral n = c :: ds) : c ≠ '0' := by
  induction n using Nat.strongRecOn generalizing ds with
  | ind n ih =>
    unfold numeral at ih hn
    rcases Nat.lt_or_ge n 10 with hlt | hge
    · rw [Nat.toDigits_of_lt_base hlt] at hn
      cases hn
      exact digitChar_ne_zero h hlt
    · -- The last digit is not the first one.
      rw [Nat.toDigits_of_base_le (by omega) hge] at hn
      obtain ⟨c', ds', h'⟩ := List.exists_cons_of_ne_nil (numeral_ne_nil (n / 10))
      unfold numeral at h'
      rw [h', List.cons_append] at hn
      cases hn
      exact ih (n / 10) (by omega) (by omega) h'

end Text

namespace Json

/-! ## Digits as bytes -/

/-- The byte of a digit. -/
def byteOf (c : Char) : UInt8 := .ofNat c.toNat

theorem encode_digits {ds : List Char} (hd : ∀ c ∈ ds, isDigit c = true) : Utf8.encode ds = ds.map byteOf := by
  induction ds with
  | nil => rfl
  | cons c ds ih =>
    have hc := hd c List.mem_cons_self
    simp only [isDigit, Bool.and_eq_true, decide_eq_true_eq] at hc
    rw [encode_cons, encodeChar_ascii (by omega), ih fun c h => hd c (List.mem_cons_of_mem _ h)]
    rfl

theorem toNat_byteOf {c : Char} (h : isDigit c = true) : (byteOf c).toNat = c.toNat := by
  simp only [isDigit, Bool.and_eq_true, decide_eq_true_eq] at h
  exact Utf8.toNat_ofNat (by omega)

theorem isDigitByte_byteOf {c : Char} (h : isDigit c = true) : isDigitByte (byteOf c) = true := by
  have hc := toNat_byteOf h
  simp only [isDigit, Bool.and_eq_true, decide_eq_true_eq] at h
  have hlow : (0x30 : UInt8).toNat = 48 := rfl
  have hhigh : (0x39 : UInt8).toNat = 57 := rfl
  simp only [isDigitByte, Bool.and_eq_true, decide_eq_true_eq, UInt8.le_iff_toNat_le, hc, hlow, hhigh]
  exact h

theorem digitOf_byteOf {c : Char} (h : isDigit c = true) : digitOf (byteOf c) = digitValue c := by
  rw [digitOf, toNat_byteOf h, digitValue]

theorem byteOf_eq_zero {c : Char} (h : isDigit c = true) (hc : byteOf c = 0x30) : c = '0' := by
  have htoNat := toNat_byteOf h
  rw [hc] at htoNat
  exact Char.toNat_inj.1 htoNat.symm

theorem isBlankByte_of_isDigitByte {b : UInt8} (h : isDigitByte b = true) : isBlankByte b = false := by
  have hlow : (0x30 : UInt8).toNat = 48 := rfl
  simp only [isDigitByte, Bool.and_eq_true, decide_eq_true_eq, UInt8.le_iff_toNat_le, hlow] at h
  simp only [isBlankByte, Bool.or_eq_false_iff, beq_eq_false_iff_ne]
  refine ⟨⟨⟨?_, ?_⟩, ?_⟩, ?_⟩ <;> rintro rfl <;> exact absurd h.1 (by decide)

/-- Digits whose number fits into 64 bits are gathered all. -/
theorem gather_digits {ds : List Char} (hd : ∀ c ∈ ds, isDigit c = true) (m n : Nat)
    (h : ds.foldl (fun n d => n * 10 + digitValue d) m < 0x10000000000000000) :
    gather m (ds.map byteOf) n = (ds.foldl (fun n d => n * 10 + digitValue d) m, n + ds.length, false) := by
  induction ds generalizing m n with
  | nil => rfl
  | cons c ds ih =>
    have hc := hd c List.mem_cons_self
    have hds : ∀ c ∈ ds, isDigit c = true := fun c h => hd c (List.mem_cons_of_mem _ h)
    -- What was gathered so far is no more than the whole number.
    have hle : m * 10 + digitValue c ≤ ds.foldl (fun n d => n * 10 + digitValue d) (m * 10 + digitValue c) := by
      generalize m * 10 + digitValue c = k
      clear ih h hd hds
      induction ds generalizing k with
      | nil => exact Nat.le_refl _
      | cons d ds ih => exact Nat.le_trans (by omega) (ih (k * 10 + digitValue d))
    rw [List.foldl_cons] at h
    rw [List.map_cons, gather, digitOf_byteOf hc, if_pos (Nat.lt_of_le_of_lt hle h), ih hds _ _ h, List.foldl_cons,
      List.length_cons, Nat.add_right_comm, Nat.add_assoc]

/-! ## Integers -/

/-- What follows does not go on with a number. -/
def EndsNumber (r : Bytes) : Prop :=
  ∀ b ∈ r.head?, isDigitByte b = false ∧ b ≠ pointByte ∧ b ≠ letter 'e' ∧ b ≠ letter 'E'

theorem spanDigits_digits {ds : List Char} (hd : ∀ c ∈ ds, isDigit c = true) {r : Bytes} (hr : EndsNumber r) :
    spanDigits (ds.map byteOf ++ r) = (ds.map byteOf, r) := by
  have hall : ∀ b ∈ ds.map byteOf, isDigitByte b = true := by
    intro b hb
    obtain ⟨c, hc, rfl⟩ := List.mem_map.1 hb
    exact isDigitByte_byteOf (hd c hc)
  rw [spanDigits, List.takeWhile_append_of_pos hall, List.dropWhile_append_of_pos hall]
  cases r with
  | nil => simp
  | cons b r => simp [(hr b rfl).1]

/-- A zero in front is the whole numeral. -/
theorem eq_nil_of_zero {n : Nat} {c : Char} {ds : List Char} (hn : numeral n = c :: ds) (hc : byteOf c = 0x30) :
    ds = [] := by
  have hdigit : isDigit c = true := isDigit_of_mem_numeral (n := n) (by rw [hn]; exact List.mem_cons_self)
  rcases Nat.eq_zero_or_pos n with rfl | hpos
  · cases hn
    rfl
  · exact absurd (byteOf_eq_zero hdigit hc) (head_numeral hpos hn)

/-- An integer of at most 64 bits is read of its digits, whatever its sign makes of it then. -/
theorem readNumber_numeral {n : Nat} (hn : n < 0x10000000000000000) (negative : Bool) {r : Bytes}
    (hr : EndsNumber r) :
    readNumber negative (Utf8.encode (numeral n) ++ r) = readNumber.whole negative n false 0 r := by
  have hd : ∀ c ∈ numeral n, isDigit c = true := fun c => isDigit_of_mem_numeral
  have hvalue := decimalValue_numeral n
  have hgather := gather_digits hd 0 0 (by rw [← decimalValue, hvalue]; exact hn)
  rw [← decimalValue, hvalue, Nat.zero_add] at hgather
  have hspan := spanDigits_digits hd hr
  rw [encode_digits hd]
  obtain ⟨c, ds, hcons⟩ := List.exists_cons_of_ne_nil (numeral_ne_nil n)
  have hc := isDigitByte_byteOf (hd c (by rw [hcons]; exact List.mem_cons_self))
  rw [hcons, List.map_cons, List.cons_append] at hspan ⊢
  rw [hcons, List.map_cons] at hgather
  -- No digit follows a zero, so in any case the number is made of all digits of the numeral.
  have hall : (if byteOf c = 0x30 then ([byteOf c], ds.map byteOf ++ r)
      else spanDigits (byteOf c :: (ds.map byteOf ++ r))) = (byteOf c :: ds.map byteOf, r) := by
    split
    · next hzero => rw [eq_nil_of_zero hcons hzero]; rfl
    · exact hspan
  have hdropped : ((byteOf c :: ds.map byteOf).length - (c :: ds).length : Nat) = 0 := by simp
  unfold readNumber
  simp only [hc, hall, hgather, hdropped]
  rw [if_neg (by simp), if_neg]
  · cases r with
    | nil => rfl
    | cons b t =>
      obtain ⟨-, hpoint, he, hE⟩ := hr b rfl
      simp [hpoint, he, hE]
  · intro h
    rw [Bool.and_eq_true, decide_eq_true_eq] at h
    obtain ⟨hzero, hnext⟩ := h
    rw [eq_nil_of_zero hcons hzero] at hnext
    cases r with
    | nil => cases hnext
    | cons b t => exact absurd hnext (by simp [(hr b rfl).1])

/-- The digits of an integer that fits into 64 bits, with its sign or without one, give it back. -/
theorem readNumber_natAbs {i : Int} (hlow : -0x8000000000000000 ≤ i) (hhigh : i < 0x10000000000000000) {r : Bytes}
    (hr : EndsNumber r) :
    readNumber (decide (i < 0)) (Utf8.encode (numeral i.natAbs) ++ r) = .ok (.int i, r) := by
  rw [readNumber_numeral (by omega) _ hr]
  by_cases hneg : i < 0
  · have hne : i.natAbs ≠ 0 := by omega
    have hle : i.natAbs ≤ 0x8000000000000000 := by omega
    have hi : -(i.natAbs : Int) = i := by omega
    rw [decide_eq_true hneg, readNumber.whole, if_neg (by decide), if_neg (by decide), if_pos, hi]
    rw [decide_eq_true hne, decide_eq_true hle]
    rfl
  · have hi : (i.natAbs : Int) = i := by omega
    rw [decide_eq_false hneg, readNumber.whole, if_neg (by decide), if_pos (by decide), hi]

/-- The first byte of a numeral without sign is a digit. -/
theorem encode_numeral (n : Nat) : ∃ b t, Utf8.encode (numeral n) = b :: t ∧ isDigitByte b = true := by
  have hd : ∀ c ∈ numeral n, isDigit c = true := fun c => isDigit_of_mem_numeral
  obtain ⟨c, ds, hcons⟩ := List.exists_cons_of_ne_nil (numeral_ne_nil n)
  rw [encode_digits hd, hcons]
  exact ⟨byteOf c, _, rfl, isDigitByte_byteOf (hd c (by rw [hcons]; exact List.mem_cons_self))⟩

theorem encode_minus : Utf8.encodeChar '-' = [minusByte] := by decide

/-- The integers that fit into 64 bits with their sign. -/
def IsInt64 (i : Int) : Prop := -0x8000000000000000 ≤ i ∧ i < 0x8000000000000000

/-- An integer of 64 bits is read of its numeral, the least one too. -/
theorem readInt64_integerNumeral {i : Int} (hi : IsInt64 i) {r : Bytes} (hr : EndsNumber r) :
    readInt64 (Utf8.encode (integerNumeral i) ++ r) = .ok (i, r) := by
  obtain ⟨hlow, hhigh⟩ := hi
  have hread := readNumber_natAbs hlow (by omega) hr
  unfold readInt64 readNumeric integerNumeral
  by_cases hneg : i < 0
  · rw [decide_eq_true hneg] at hread
    rw [if_pos hneg, encode_cons, encode_minus, List.singleton_append, List.cons_append, skipBlanks_cons (by decide)]
    simp only [if_true, hread, bind, Except.bind, if_pos hhigh]
    rfl
  · rw [decide_eq_false hneg] at hread
    obtain ⟨b, t, ht, hb⟩ := encode_numeral i.natAbs
    have hne : b ≠ minusByte := by
      rintro rfl
      exact absurd hb (by decide)
    rw [ht, List.cons_append] at hread
    rw [if_neg hneg, ht, List.cons_append, skipBlanks_cons (isBlankByte_of_isDigitByte hb)]
    simp only [if_neg hne, hb, if_true, hread, bind, Except.bind, if_pos hhigh]
    rfl

end Json

end ClusterPanel
