import ClusterPanel.Proofs.DecimalScaling
import ClusterPanel.Proofs.HeldInstants
import ClusterPanel.Proofs.IntegerReading
import ClusterPanel.Proofs.ShortestDecimals

/- Printed decimals read back. The digits of a number are gathered into 64 bits, and those that no longer fit only move
   the exponent: what is read is a significand and an exponent that stand for the decimal or for a little less
   (`readsBelow_text`). So a number of single precision that is finite is read of its text as a finite one
   (`exists_readSingle_singleText`). -/
namespace ClusterPanel.Json

open Text Number

/-! ## Digits -/

/-- Digits after others. -/
theorem decimalValue_append_digits (ds more : List Char) :
    decimalValue (ds ++ more) = more.foldl (fun n d => n * 10 + digitValue d) (decimalValue ds) := by
  rw [decimalValue, List.foldl_append, ← decimalValue]

theorem foldl_digits (m : Nat) (ds : List Char) :
    ds.foldl (fun n d => n * 10 + digitValue d) m = m * 10 ^ ds.length + decimalValue ds := by
  induction ds generalizing m with
  | nil => simp [decimalValue]
  | cons d ds ih =>
    have hcons : decimalValue (d :: ds) = digitValue d * 10 ^ ds.length + decimalValue ds := by
      show ds.foldl _ (0 * 10 + digitValue d) = _
      rw [ih, Nat.zero_mul, Nat.zero_add]
    rw [List.foldl_cons, ih, hcons, List.length_cons, pow_succ]
    ring

/-- What was gathered of digits fits into 64 bits and stands for no more than they do. -/
theorem gather_spec {ds : List Char} (hd : ∀ c ∈ ds, isDigit c = true) {m : Nat} (n : Nat) (hm : m < 2 ^ 64) :
    ∃ k taken overflow, gather m (ds.map byteOf) n = (k, n + taken, overflow) ∧ k < 2 ^ 64 ∧ taken ≤ ds.length ∧
      k * 10 ^ (ds.length - taken) ≤ ds.foldl (fun n d => n * 10 + digitValue d) m := by
  induction ds generalizing m n with
  | nil => exact ⟨m, 0, false, rfl, hm, Nat.le_refl _, by simp⟩
  | cons d ds ih =>
    rw [List.map_cons, gather, digitOf_byteOf (hd d List.mem_cons_self)]
    split
    · next hlt =>
      obtain ⟨k, taken, overflow, hgather, hk, htaken, hle⟩ :=
        ih (fun c hc => hd c (List.mem_cons_of_mem _ hc)) (n + 1) hlt
      refine ⟨k, taken + 1, overflow, ?_, hk, Nat.succ_le_succ htaken, ?_⟩
      · rw [hgather, Nat.add_assoc, Nat.add_comm 1]
      · rw [List.length_cons, Nat.add_sub_add_right, List.foldl_cons]
        exact hle
    · refine ⟨m, 0, true, rfl, hm, Nat.zero_le _, ?_⟩
      rw [foldl_digits, Nat.sub_zero]
      exact Nat.le_add_right _ _

/-! ## Numbers -/

/-- No digit comes first. -/
def NoDigitNext (r : Bytes) : Prop := ∀ b ∈ r.head?, isDigitByte b = false

theorem spanDigits_of_noDigitNext {ds : List Char} (hd : ∀ c ∈ ds, isDigit c = true) {r : Bytes} (hr : NoDigitNext r) :
    spanDigits (ds.map byteOf ++ r) = (ds.map byteOf, r) := by
  have hall : ∀ b ∈ ds.map byteOf, isDigitByte b = true := by
    intro b hb
    obtain ⟨c, hc, rfl⟩ := List.mem_map.1 hb
    exact isDigitByte_byteOf (hd c hc)
  rw [spanDigits, List.takeWhile_append_of_pos hall, List.dropWhile_append_of_pos hall]
  cases r with
  | nil => simp
  | cons b r => simp [hr b rfl]

/-- The digits before a point or an exponent: of several the first is not zero, and their number fits into 64 bits. -/
structure IsWholePart (ds : List Char) : Prop where
  digits : ∀ c ∈ ds, isDigit c = true
  nonempty : ds ≠ []
  first : ds.head? = some '0' → ds = ['0']
  small : decimalValue ds < 2 ^ 64

section Whole

variable {ds : List Char} {negative : Bool} {t : Bytes}

/-- The digits before a point or an exponent are all gathered. -/
theorem readNumber_whole (h : IsWholePart ds) {b : UInt8} (hb : b = pointByte ∨ b = letter 'e') :
    readNumber negative (ds.map byteOf ++ b :: t) =
      if b = pointByte then readDecimals negative (decimalValue ds) 0 t
      else readExponent negative (decimalValue ds) 0 t := by
  obtain ⟨hd, hne, hfirst, hsmall⟩ := h
  have hgather := gather_digits hd 0 0 hsmall
  rw [← decimalValue, Nat.zero_add] at hgather
  have hnext : isDigitByte b = false := by rcases hb with rfl | rfl <;> decide
  have hspan : spanDigits (ds.map byteOf ++ b :: t) = (ds.map byteOf, b :: t) :=
    spanDigits_of_noDigitNext hd fun c hc => by cases hc; exact hnext
  obtain ⟨c, ds, rfl⟩ := List.exists_cons_of_ne_nil hne
  have hc := hd c List.mem_cons_self
  have hzero (hc0 : byteOf c = 0x30) : ds = [] := by
    have hall := hfirst (by rw [List.head?_cons, byteOf_eq_zero hc hc0])
    exact (List.cons.inj hall).2
  rw [List.map_cons, List.cons_append] at hspan ⊢
  rw [List.map_cons] at hgather
  have hall : (if byteOf c = 0x30 then ([byteOf c], ds.map byteOf ++ b :: t)
      else spanDigits (byteOf c :: (ds.map byteOf ++ b :: t))) = (byteOf c :: ds.map byteOf, b :: t) := by
    split
    · next hc0 => rw [hzero hc0]; rfl
    · exact hspan
  have hdropped : ((byteOf c :: ds.map byteOf).length - (c :: ds).length : Nat) = 0 := by simp
  unfold readNumber
  simp only [isDigitByte_byteOf hc, hall, hgather, hdropped]
  rw [if_neg (by simp), if_neg]
  · rcases hb with rfl | rfl
    · simp
    · simp
  · intro h
    rw [Bool.and_eq_true, decide_eq_true_eq] at h
    obtain ⟨hc0, hdigit⟩ := h
    rw [hzero hc0] at hdigit
    exact absurd hdigit (by simp [hnext])

/-- The digits before and after a point are read as a significand and a negative exponent that stand for no more than
    they do. -/
theorem exists_readNumber_point {whole fraction : List Char} (hw : IsWholePart whole)
    (hf : ∀ c ∈ fraction, isDigit c = true) (hne : fraction ≠ []) :
    ∃ m n : Nat, m < 2 ^ 64 ∧
      (m : ℚ) * 10 ^ (-n : Int) ≤ decimalValue (whole ++ fraction) * 10 ^ (-fraction.length : Int) ∧
      ∀ negative r, NoDigitNext r →
        readNumber negative (whole.map byteOf ++ pointByte :: (fraction.map byteOf ++ r)) =
          readTail negative m (-n) r := by
  obtain ⟨m, n, overflow, hgather, hm, hn, hle⟩ := gather_spec hf 0 hw.small
  refine ⟨m, n, hm, ?_, ?_⟩
  · rw [← decimalValue_append_digits] at hle
    have hle' : (m : ℚ) * 10 ^ (fraction.length - n) ≤ decimalValue (whole ++ fraction) := by exact_mod_cast hle
    have hten : (10 : ℚ) ≠ 0 := by norm_num
    calc (m : ℚ) * 10 ^ (-n : Int) = m * 10 ^ (fraction.length - n) * 10 ^ (-fraction.length : Int) := by
          rw [mul_assoc, ← zpow_natCast, ← zpow_add₀ hten]
          congr 2
          omega
      _ ≤ decimalValue (whole ++ fraction) * 10 ^ (-fraction.length : Int) := by gcongr
  · intro negative r hr
    rw [readNumber_whole hw (.inl rfl), if_pos rfl]
    have hempty : (fraction.map byteOf).isEmpty = false := by
      rw [List.isEmpty_map]
      simpa using hne
    unfold readDecimals
    simp only [spanDigits_of_noDigitNext hf hr, hempty, hgather, Bool.false_eq_true, if_false]
    congr 1
    omega

end Whole

/-! ## Exponents -/

/-- The byte of the sign of an exponent. -/
def signByte (negative : Bool) : UInt8 := if negative then minusByte else plusByte

theorem readExponent_numeral (negative negative' : Bool) (m k : Nat) (e : Int) (hk : k < 2 ^ 31) {r : Bytes}
    (hr : NoDigitNext r) :
    readExponent negative m e (signByte negative' :: ((numeral k).map byteOf ++ r)) =
      scaleDouble negative m (if negative' then max (e - k) (-0x80000000) else min (e + k) 0x7fffffff) r := by
  have hd : ∀ c ∈ numeral k, isDigit c = true := fun c => isDigit_of_mem_numeral
  have hspan := spanDigits_of_noDigitNext hd hr
  rw [spanDigits, Prod.mk.injEq] at hspan
  have hvalue : ((numeral k).map byteOf).foldl (fun n d => n * 10 + digitOf d) 0 = k := by
    rw [List.foldl_map]
    refine Eq.trans ?_ (decimalValue_numeral k)
    exact List.foldl_ext _ _ _ fun n c hc => by rw [digitOf_byteOf (hd c hc)]
  obtain ⟨c, ds, hcons⟩ := List.exists_cons_of_ne_nil (numeral_ne_nil k)
  have hc := isDigitByte_byteOf (hd c (by rw [hcons]; exact List.mem_cons_self))
  have hminus : (minusByte : UInt8) ≠ plusByte := by decide
  unfold readExponent
  rw [hcons, List.map_cons, List.cons_append] at hspan ⊢
  rw [hcons, List.map_cons] at hvalue
  cases negative' with
  | true =>
    simp only [signByte, if_true, if_neg hminus, hc, hspan, hvalue, if_pos (show k < 0x80000000 from hk)]
  | false =>
    simp only [signByte, Bool.false_eq_true, if_false, if_true, hc, hspan, hvalue, if_pos (show k < 0x80000000 from hk)]

/-! ## Texts of numbers -/

/-- The text is read as a significand and an exponent that stand for no more than a fraction. -/
def ReadsBelow (text : List Char) (v : ℚ) : Prop :=
  ∃ (m : Nat) (e : Int), m < 2 ^ 64 ∧ e ≤ 38 ∧ (0 ≤ e → (m : ℚ) * 10 ^ e ≤ v) ∧
    ∀ negative r, EndsNumber r → readNumber negative (Utf8.encode text ++ r) = scaleDouble negative m e r

/-- An exponent with its sign, as it stands at the end of a number. -/
def exponentText (x : Int) : List Char := 'e' :: (if x < 0 then '-' else '+') :: numeral x.natAbs

theorem EndsNumber.noDigitNext {r : Bytes} (h : EndsNumber r) : NoDigitNext r := fun b hb => (h b hb).1

theorem readTail_of_endsNumber {negative : Bool} {m : Nat} {e : Int} {r : Bytes} (hr : EndsNumber r) :
    readTail negative m e r = scaleDouble negative m e r := by
  cases r with
  | nil => rfl
  | cons b r =>
    obtain ⟨-, -, he, hE⟩ := hr b rfl
    simp [readTail, he, hE]

theorem encode_exponentText (x : Int) :
    Utf8.encode (exponentText x) = letter 'e' :: signByte (decide (x < 0)) :: (numeral x.natAbs).map byteOf := by
  have hd : ∀ c ∈ numeral x.natAbs, isDigit c = true := fun c => isDigit_of_mem_numeral
  have he : Utf8.encodeChar 'e' = [letter 'e'] := by decide
  have hplus : Utf8.encodeChar '+' = [plusByte] := by decide
  rw [exponentText, encode_cons, encode_cons, encode_digits hd, he]
  by_cases hx : x < 0
  · rw [if_pos hx, decide_eq_true hx, encode_minus]
    rfl
  · rw [if_neg hx, decide_eq_false hx, hplus]
    rfl

/-- An exponent moves the point of what was read before it. -/
theorem exists_readExponent {m n : Nat} {x : Int} (hx : x ≤ 38) (hx' : -38000 ≤ x) {v : ℚ}
    (hv : (m : ℚ) * 10 ^ (-n : Int) ≤ v) :
    ∃ e : Int, e ≤ 38 ∧ (0 ≤ e → (m : ℚ) * 10 ^ e ≤ v * 10 ^ x) ∧ ∀ negative r, NoDigitNext r →
      readExponent negative m (-n) (signByte (decide (x < 0)) :: ((numeral x.natAbs).map byteOf ++ r)) =
        scaleDouble negative m e r := by
  have hread (negative : Bool) (r : Bytes) (hr : NoDigitNext r) :=
    readExponent_numeral negative (decide (x < 0)) m x.natAbs (-n) (by omega) hr
  by_cases hneg : x < 0
  · rw [decide_eq_true hneg] at hread ⊢
    simp only [if_true] at hread
    exact ⟨_, by omega, by omega, hread⟩
  · rw [decide_eq_false hneg] at hread ⊢
    simp only [Bool.false_eq_true, if_false] at hread
    refine ⟨_, by omega, fun _ => ?_, hread⟩
    have he : min (-(n : Int) + x.natAbs) 0x7fffffff = -n + x := by omega
    rw [he, zpow_add₀ (by norm_num), ← mul_assoc]
    gcongr

theorem readsBelow_point {whole fraction : List Char} (hw : IsWholePart whole)
    (hf : ∀ c ∈ fraction, isDigit c = true) (hne : fraction ≠ []) :
    ReadsBelow (whole ++ '.' :: fraction) (decimalValue (whole ++ fraction) * 10 ^ (-fraction.length : Int)) := by
  obtain ⟨m, n, hm, hle, hread⟩ := exists_readNumber_point hw hf hne
  refine ⟨m, -n, hm, by omega, fun _ => hle, ?_⟩
  intro negative r hr
  have hpoint : Utf8.encodeChar '.' = [pointByte] := by decide
  rw [encode_append, encode_cons, encode_digits hw.digits, encode_digits hf, hpoint, List.append_assoc,
    List.singleton_append, List.cons_append, hread negative r hr.noDigitNext, readTail_of_endsNumber hr]

theorem readsBelow_exponent {whole : List Char} (hw : IsWholePart whole) {x : Int} (hx : x ≤ 38) (hx' : -38000 ≤ x) :
    ReadsBelow (whole ++ exponentText x) (decimalValue whole * 10 ^ x) := by
  have hv : (decimalValue whole : ℚ) * 10 ^ (-(0 : Nat) : Int) ≤ decimalValue whole := by simp
  obtain ⟨e, he, hle, hread⟩ := exists_readExponent hx hx' hv
  refine ⟨decimalValue whole, e, hw.small, he, hle, ?_⟩
  intro negative r hr
  have hpoint : (letter 'e' : UInt8) ≠ pointByte := by decide
  have hexponent := hread negative r hr.noDigitNext
  rw [encode_append, encode_digits hw.digits, encode_exponentText, List.append_assoc, List.cons_append,
    List.cons_append, readNumber_whole hw (.inr rfl), if_neg hpoint]
  exact hexponent

theorem readsBelow_point_exponent {whole fraction : List Char} (hw : IsWholePart whole)
    (hf : ∀ c ∈ fraction, isDigit c = true) (hne : fraction ≠ []) {x : Int} (hx : x ≤ 38) (hx' : -38000 ≤ x) :
    ReadsBelow (whole ++ '.' :: fraction ++ exponentText x)
      (decimalValue (whole ++ fraction) * 10 ^ (-fraction.length : Int) * 10 ^ x) := by
  obtain ⟨m, n, hm, hle, hread⟩ := exists_readNumber_point hw hf hne
  obtain ⟨e, he, hle', hexponent⟩ := exists_readExponent hx hx' hle
  refine ⟨m, e, hm, he, hle', ?_⟩
  intro negative r hr
  have hpoint : Utf8.encodeChar '.' = [pointByte] := by decide
  rw [encode_append, encode_append, encode_cons, encode_digits hw.digits, encode_digits hf, hpoint, encode_exponentText]
  simp only [List.append_assoc, List.cons_append, List.nil_append]
  rw [hread negative _ fun b hb => by cases hb; decide]
  exact hexponent negative r hr.noDigitNext

/-! ## Texts of decimals -/

theorem decimalValue_zeros_append (k : Nat) (ds : List Char) :
    decimalValue (List.replicate k '0' ++ ds) = decimalValue ds := by
  induction k with
  | zero => rfl
  | succ k ih => exact ih

theorem decimalValue_append_zeros (ds : List Char) (k : Nat) :
    decimalValue (ds ++ List.replicate k '0') = decimalValue ds * 10 ^ k := by
  have hzeros : decimalValue (List.replicate k '0') = 0 := by
    rw [← List.append_nil (List.replicate k '0'), decimalValue_zeros_append]
    rfl
  rw [decimalValue_append_digits, foldl_digits, List.length_replicate, hzeros, Nat.add_zero]

theorem isDigit_of_mem_zeros {k : Nat} {c : Char} (h : c ∈ List.replicate k '0') : isDigit c = true := by
  obtain ⟨-, rfl⟩ := List.mem_replicate.1 h
  decide

theorem isDigit_zero : ∀ c ∈ ['0'], isDigit c = true := List.forall_mem_singleton.2 rfl

theorem isWholePart_zero : IsWholePart ['0'] := ⟨isDigit_zero, List.cons_ne_nil _ _, fun _ => rfl, by decide⟩

/-- Up to nineteen digits with no zero in front may stand before a point. -/
theorem isWholePart_of_length {ds : List Char} (hd : ∀ c ∈ ds, isDigit c = true) (hne : ds ≠ [])
    (hfirst : ds.head? ≠ some '0') (hlength : ds.length ≤ 19) : IsWholePart ds where
  digits := hd
  nonempty := hne
  first h := absurd h hfirst
  small := by
    have hpow : Nat.pow 10 ds.length ≤ Nat.pow 10 19 := Nat.pow_le_pow_right (by decide) hlength
    exact (decimalValue_lt hd).trans_le (hpow.trans (by decide))

/-- The first digits of a numeral may. -/
theorem isWholePart_take {ds : List Char} (hd : ∀ c ∈ ds, isDigit c = true) (hne : ds ≠ [])
    (hfirst : ds.head? ≠ some '0') {n : Nat} (hn : n < 19) : IsWholePart (ds.take (n + 1)) := by
  refine isWholePart_of_length (fun c hc => hd c (List.mem_of_mem_take hc)) ?_ ?_ ?_
  · cases ds with
    | nil => exact absurd rfl hne
    | cons c ds => exact List.cons_ne_nil _ _
  · cases ds with
    | nil => exact absurd rfl hne
    | cons c ds => exact hfirst
  · rw [List.length_take]
    omega

section Text

variable {ds : List Char}

/-- Zeros at the end, and one more after the point. -/
theorem readsBelow_trailing (hd : ∀ c ∈ ds, isDigit c = true) (hne : ds ≠ []) (hfirst : ds.head? ≠ some '0') {n : Nat}
    (hlength : ds.length + n ≤ 19) :
    ReadsBelow (ds ++ List.replicate n '0' ++ ['.', '0']) (decimalValue ds * 10 ^ (n : Int)) := by
  have hten : (10 : ℚ) ≠ 0 := by norm_num
  have hw : IsWholePart (ds ++ List.replicate n '0') := by
    refine isWholePart_of_length ?_ (List.append_ne_nil_of_left_ne_nil hne _) ?_ ?_
    · intro c hc
      exact (List.mem_append.1 hc).elim (hd c) isDigit_of_mem_zeros
    · rwa [List.head?_append_of_ne_nil _ hne]
    · rwa [List.length_append, List.length_replicate]
  have hread := readsBelow_point hw isDigit_zero (List.cons_ne_nil _ _)
  have hsame : (decimalValue (ds ++ List.replicate n '0' ++ ['0']) : ℚ) * 10 ^ (-(1 : Nat) : Int) =
      decimalValue ds * 10 ^ (n : Int) := by
    rw [← List.replicate_one, decimalValue_append_zeros, decimalValue_append_zeros, zpow_natCast]
    push_cast
    rw [zpow_neg_one, mul_assoc, mul_inv_cancel₀ hten, mul_one]
  rw [← hsame]
  exact hread

/-- A point among the digits. -/
theorem readsBelow_among (hd : ∀ c ∈ ds, isDigit c = true) (hne : ds ≠ []) (hfirst : ds.head? ≠ some '0') {n : Nat}
    (hn : n < 19) (hlength : n + 1 < ds.length) :
    ReadsBelow (ds.take (n + 1) ++ '.' :: ds.drop (n + 1)) (decimalValue ds * 10 ^ ((n : Int) + 1 - ds.length)) := by
  have hdrop : ∀ c ∈ ds.drop (n + 1), isDigit c = true := fun c hc => hd c (List.mem_of_mem_drop hc)
  have hmore : ds.drop (n + 1) ≠ [] := by
    rw [Ne, List.drop_eq_nil_iff]
    omega
  have hread := readsBelow_point (isWholePart_take hd hne hfirst hn) hdrop hmore
  have hshift : (-(ds.drop (n + 1)).length : Int) = n + 1 - ds.length := by
    rw [List.length_drop]
    omega
  rwa [List.take_append_drop, hshift] at hread

/-- Zeros in front, the first of them before the point. -/
theorem readsBelow_leading (hd : ∀ c ∈ ds, isDigit c = true) (hne : ds ≠ []) (n : Nat) :
    ReadsBelow (['0', '.'] ++ List.replicate n '0' ++ ds) (decimalValue ds * 10 ^ (-(n + ds.length : Nat) : Int)) := by
  have hpadded : ∀ c ∈ List.replicate n '0' ++ ds, isDigit c = true :=
    fun c hc => (List.mem_append.1 hc).elim isDigit_of_mem_zeros (hd c)
  have hread := readsBelow_point isWholePart_zero hpadded (List.append_ne_nil_of_right_ne_nil _ hne)
  have hzeros : decimalValue (['0'] ++ (List.replicate n '0' ++ ds)) = decimalValue ds := by
    rw [← decimalValue_zeros_append n ds]
    rfl
  rwa [hzeros, List.length_append, List.length_replicate] at hread

/-- One digit, the others after a point, and the exponent of the first. -/
theorem readsBelow_scientific (hd : ∀ c ∈ ds, isDigit c = true) (hne : ds ≠ []) (hfirst : ds.head? ≠ some '0') {x : Int}
    (hx : x ≤ 38) (hx' : -38000 ≤ x) :
    ReadsBelow (ds.take 1 ++ (if ds.length ≤ 1 then [] else '.' :: ds.drop 1) ++ exponentText x)
      (decimalValue ds * 10 ^ (x + 1 - ds.length)) := by
  have hten : (10 : ℚ) ≠ 0 := by norm_num
  have hw : IsWholePart (ds.take 1) := isWholePart_take hd hne hfirst (by decide)
  have hpos := List.length_pos_iff.2 hne
  split
  · next hone =>
    have hread := readsBelow_exponent hw hx hx'
    have hall : ds.take 1 = ds := List.take_of_length_le hone
    have hshift : x + 1 - ds.length = x := by omega
    rw [List.append_nil, hshift]
    rwa [hall] at hread ⊢
  · next hmore =>
    have hdrop : ∀ c ∈ ds.drop 1, isDigit c = true := fun c hc => hd c (List.mem_of_mem_drop hc)
    have hrest : ds.drop 1 ≠ [] := by rwa [Ne, List.drop_eq_nil_iff]
    have hread := readsBelow_point_exponent hw hdrop hrest hx hx'
    have hshift : (-(ds.drop 1).length : Int) + x = x + 1 - ds.length := by
      rw [List.length_drop]
      omega
    rwa [List.take_append_drop, mul_assoc, ← zpow_add₀ hten, hshift] at hread

theorem head?_numeral {n : Nat} (h : 0 < n) : (numeral n).head? ≠ some '0' := by
  obtain ⟨c, ds, hcons⟩ := List.exists_cons_of_ne_nil (numeral_ne_nil n)
  rw [hcons, List.head?_cons]
  exact fun h0 => head_numeral h hcons (Option.some.inj h0)

/-- What is written of a decimal is read as a number that is no larger. -/
theorem readsBelow_text {d : Decimal} {plain : PlainRange} (hpos : 0 < d.digits) (hlast : plain.last ≤ 18)
    (hlow : -38000 ≤ d.leading) (hhigh : d.leading ≤ 38) : ReadsBelow (d.text plain) d.value := by
  have hd : ∀ c ∈ numeral d.digits, isDigit c = true := fun c => isDigit_of_mem_numeral
  have hvalue := decimalValue_numeral d.digits
  have hfirst := head?_numeral hpos
  have hne := numeral_ne_nil d.digits
  have hlength := List.length_pos_iff.2 hne
  unfold Decimal.leading at hlow hhigh
  unfold Decimal.text Decimal.value
  dsimp only
  generalize numeral d.digits = ds at *
  generalize d.exponent = x at *
  rw [← hvalue]
  split
  · next hplain =>
    split
    · next hx =>
      have hread := readsBelow_trailing hd hne hfirst (n := x.toNat) (by omega)
      rwa [Int.toNat_of_nonneg hx] at hread
    · next hx =>
      split
      · next he =>
        have hread := readsBelow_among hd hne hfirst (n := (x + ds.length - 1).toNat) (by omega) (by omega)
        have hshift : ((x + ds.length - 1).toNat : Int) + 1 - ds.length = x := by omega
        rwa [hshift] at hread
      · next he =>
        have hread := readsBelow_leading hd hne (-(x + ds.length - 1) - 1).toNat
        have hshift : (-((-(x + ds.length - 1) - 1).toNat + ds.length : Nat) : Int) = x := by omega
        rwa [hshift] at hread
  · have hread := readsBelow_scientific hd hne hfirst hhigh hlow
    have hshift : x + ds.length - 1 + 1 - ds.length = x := by omega
    rwa [hshift] at hread

end Text

/-! ## Numbers of single precision -/

theorem isDigitByte_of_readNumber {negative : Bool} {s : Bytes} {p : Numeric × Bytes}
    (h : readNumber negative s = .ok p) : ∃ b t, s = b :: t ∧ isDigitByte b = true := by
  cases s with
  | nil => cases h
  | cons b t =>
    refine ⟨b, t, rfl, ?_⟩
    cases hb : isDigitByte b with
    | true => rfl
    | false =>
      unfold readNumber at h
      simp only [hb, Bool.not_false, if_true] at h
      cases h

/-- A number below the bound is read as a finite one, with or without a minus sign. -/
theorem exists_readSingle {text : List Char} {v : ℚ} (h : ReadsBelow text v) (hv : v ≤ singleBound) (negative : Bool) :
    ∃ y : Binary, y.isInfinite = false ∧ ∀ r, EndsNumber r →
      readSingle (Utf8.encode (if negative then '-' :: text else text) ++ r) = .ok (y, r) := by
  obtain ⟨m, e, hm, he, hle, hread⟩ := h
  obtain ⟨y, hscale, hfinite⟩ := exists_scaleDouble hm he (fun h0 => (hle h0).trans hv) negative
  refine ⟨_, hfinite, ?_⟩
  intro r hr
  have hnumber : readNumber negative (Utf8.encode text ++ r) = .ok (.double y, r) :=
    (hread negative r hr).trans (hscale r)
  have hnumeric : readNumeric "f32" (Utf8.encode (if negative then '-' :: text else text) ++ r) =
      .ok (.double y, r) := by
    cases negative with
    | true =>
      rw [if_pos rfl, encode_cons, encode_minus, List.singleton_append, List.cons_append, readNumeric,
        skipBlanks_cons (by decide)]
      exact hnumber
    | false =>
      obtain ⟨b, t, ht, hb⟩ := isDigitByte_of_readNumber hnumber
      have hne : b ≠ minusByte := by
        rintro rfl
        exact absurd hb (by decide)
      rw [if_neg Bool.false_ne_true, readNumeric, ht, skipBlanks_cons (isBlankByte_of_isDigitByte hb)]
      simp only [if_neg hne, hb, if_true]
      rw [← ht]
      exact hnumber
  simp only [readSingle, hnumeric, bind, Except.bind]
  rfl

/-- A finite number of single precision is written as a number below the bound. -/
theorem readsBelow_singleText {negative : Bool} {m : Nat} {q : Int}
    (hx : (Binary.finite negative m q).Fits Precision.single) :
    ∃ text v, singleText (.finite negative m q) = (if negative then '-' :: text else text) ∧ ReadsBelow text v ∧
      v ≤ singleBound := by
  obtain ⟨hm, hq, hq'⟩ := hx
  by_cases h0 : m = 0
  · refine ⟨['0', '.', '0'], 0, by rw [h0]; rfl, ?_, by norm_num [singleBound]⟩
    have hzero := readsBelow_point isWholePart_zero isDigit_zero (List.cons_ne_nil _ _)
    have hvalue : decimalValue (['0'] ++ ['0']) = 0 := rfl
    rw [hvalue, Nat.cast_zero, zero_mul] at hzero
    exact hzero
  · have hpos := Nat.pos_of_ne_zero h0
    obtain ⟨hlow, hhigh⟩ := leading_single hpos hm hq hq'
    have hdigits := Decimal.digits_pos (shortest_single_pos hpos hq)
    refine ⟨(Precision.single.shortest m q).text singleRange, (Precision.single.shortest m q).value, ?_,
      readsBelow_text hdigits (by decide) (by omega) hhigh, shortest_le_single hm hq'⟩
    show (if negative then '-' :: (if m = 0 then _ else _) else (if m = 0 then _ else _)) = _
    rw [if_neg h0]

/-- A finite number of single precision is read of its text as a finite number. -/
theorem exists_readSingle_singleText {x : Binary} (hx : x.Fits Precision.single) (hfinite : x.isInfinite = false) :
    ∃ y : Binary, y.isInfinite = false ∧
      ∀ r, EndsNumber r → readSingle (Utf8.encode (singleText x) ++ r) = .ok (y, r) := by
  cases x with
  | infinite s => cases hfinite
  | finite negative m q =>
    obtain ⟨text, v, htext, hread, hv⟩ := readsBelow_singleText hx
    rw [htext]
    exact exists_readSingle hread hv negative

end ClusterPanel.Json
