import ClusterPanel.Json.Scan
import ClusterPanel.Proofs.Rounding

/- A significand times a power of ten, in double precision. Every step of the computation rounds once, by little next
   to the number (`exists_double`); so what comes out is little more than the product, and three roundings do not lead
   from a decimal a quarter of a unit below the bound of single precision to beyond the bound (`exists_mul_power`). A
   negative power only makes a number smaller, up to rounding (`exists_divPower`). -/
namespace ClusterPanel

open Number

namespace Number

/-- The greatest number of double precision is beyond all powers of ten that are used. -/
theorem pow_308_lt : (10 : ℚ) ^ 308 < (2 ^ Precision.double.bits - 1 / 2) * 2 ^ Precision.double.greatest := by
  have hnat : 10 ^ 308 < (2 ^ 54 - 1) * 2 ^ 970 := by decide +kernel
  have hcast : ((10 ^ 308 : Nat) : ℚ) < ((2 ^ 54 - 1) * 2 ^ 970 : Nat) := Nat.cast_lt.2 hnat
  have hgreatest : (2 : ℚ) ^ Precision.double.greatest = 2 ^ 970 * 2 := zpow_add_one₀ two_ne_zero 970
  rw [Nat.cast_pow, Nat.cast_mul, Nat.cast_pow 2 970] at hcast
  calc (10 : ℚ) ^ 308 < (2 ^ 54 - 1 : Nat) * 2 ^ 970 := hcast
    _ = (2 ^ 53 - 1 / 2) * (2 ^ 970 * 2) := by
      generalize (2 : ℚ) ^ 970 = c
      norm_num
      ring
    _ = (2 ^ Precision.double.bits - 1 / 2) * 2 ^ Precision.double.greatest := by rw [hgreatest]; rfl

/-- The share of a number of double precision that is not a matter of the last rounding. -/
def doubleShare : ℚ := 1 - 2 ^ (-53 : Int)

theorem half_le_doubleShare : 1 / 2 ≤ doubleShare := by norm_num [doubleShare]

section Double

variable {a b : Nat}

/-- Neither too large nor too small a fraction is rounded to a finite number, with an error that is small next to it. -/
theorem exists_double (hb : 0 < b) (hlow : a ≠ 0 → (2 : ℚ) ^ (-1000 : Int) ≤ a / b) (hhigh : (a : ℚ) / b ≤ 10 ^ 308) :
    ∃ m q, Precision.double.round false a b = .finite false m q ∧
      (m : ℚ) * 2 ^ q * doubleShare ≤ a / b ∧ (a : ℚ) / b ≤ 2 * (m * 2 ^ q) := by
  obtain ⟨m, q, hround, hnearest⟩ := Precision.exists_round false isFormat_double hb (hhigh.trans_lt pow_308_lt)
  refine ⟨m, q, hround, ?_⟩
  by_cases ha : a = 0
  · subst ha
    cases hround
    simp
  · have hleast : (2 : ℚ) ^ (Precision.double.bits - 1) * 2 ^ Precision.double.least ≤ 2 ^ (-1000 : Int) := by
      rw [← zpow_natCast, ← zpow_add₀ two_ne_zero]
      exact zpow_le_zpow_right₀ one_le_two (by decide)
    have hfull := hnearest.full (hleast.trans (hlow ha))
    refine ⟨hnearest.le_of_full isFormat_double hfull, ?_⟩
    have herror := (abs_le.1 hnearest.error).1
    have hm : (1 : ℚ) ≤ m := by exact_mod_cast (Nat.one_le_two_pow).trans hfull
    have hpos : (0 : ℚ) < 2 ^ q := by positivity
    have hunit : 1 * (2 : ℚ) ^ q ≤ m * 2 ^ q := by gcongr
    rw [zpow_sub_one₀ two_ne_zero] at herror
    linarith

theorem exists_natural {n : Nat} (hn : (n : ℚ) ≤ 10 ^ 308) :
    ∃ m q, Precision.double.round false n 1 = .finite false m q ∧
      (m : ℚ) * 2 ^ q * doubleShare ≤ n ∧ (n : ℚ) ≤ 2 * (m * 2 ^ q) := by
  have h := exists_double (a := n) (b := 1) one_pos ?_ ?_
  · rwa [Nat.cast_one, div_one] at h
  · intro h0
    rw [Nat.cast_one, div_one]
    calc (2 : ℚ) ^ (-1000 : Int) ≤ 2 ^ (0 : Int) := zpow_le_zpow_right₀ one_le_two (by decide)
      _ = 1 := zpow_zero 2
      _ ≤ n := by exact_mod_cast Nat.one_le_iff_ne_zero.2 h0
  · rwa [Nat.cast_one, div_one]

theorem exists_ofNat {n : Nat} (hn : n < 2 ^ 64) :
    ∃ m q, Precision.double.ofNat n = .finite false m q ∧
      (m : ℚ) * 2 ^ q * doubleShare ≤ n ∧ (n : ℚ) ≤ 2 * (m * 2 ^ q) := by
  apply exists_natural
  calc (n : ℚ) ≤ 2 ^ 64 := by exact_mod_cast hn.le
    _ ≤ 10 ^ 20 := by norm_num
    _ ≤ 10 ^ 308 := pow_le_pow_right₀ (by norm_num) (by omega)

theorem exists_powerOfTen {k : Nat} (hk : k ≤ 308) :
    ∃ m q, Precision.double.powerOfTen k = .finite false m q ∧
      (m : ℚ) * 2 ^ q * doubleShare ≤ 10 ^ k ∧ (10 : ℚ) ^ k ≤ 2 * (m * 2 ^ q) := by
  have hcast : ((Nat.pow 10 k : Nat) : ℚ) = 10 ^ k := Nat.cast_pow 10 k
  rw [← hcast]
  apply exists_natural
  rw [hcast]
  exact pow_le_pow_right₀ (by norm_num) hk

/-- A product of numbers that are not too large. -/
theorem exists_mul {m n : Nat} {q r : Int} (hlow : m * n ≠ 0 → (2 : ℚ) ^ (-1000 : Int) ≤ m * 2 ^ q * (n * 2 ^ r))
    (hhigh : (m : ℚ) * 2 ^ q * (n * 2 ^ r) ≤ 10 ^ 308) :
    ∃ k s, Precision.double.mul (.finite false m q) (.finite false n r) = .finite false k s ∧
      (k : ℚ) * 2 ^ s * doubleShare ≤ m * 2 ^ q * (n * 2 ^ r) := by
  have hproduct : ((m * n * Nat.pow 2 (q + r).toNat : Nat) : ℚ) / (Nat.pow 2 (-(q + r)).toNat : Nat) =
      m * 2 ^ q * (n * 2 ^ r) := by
    rw [cast_scaled, zpow_add₀ two_ne_zero, Nat.cast_mul]
    ring
  obtain ⟨k, s, hround, hle, -⟩ := exists_double (a := m * n * Nat.pow 2 (q + r).toNat)
    (b := Nat.pow 2 (-(q + r)).toNat) (Nat.pow_pos two_pos)
    (fun h0 => hproduct ▸ hlow fun h => h0 (by rw [h, Nat.zero_mul])) (hproduct ▸ hhigh)
  rw [hproduct] at hle
  exact ⟨k, s, hround, hle⟩

/-- A quotient by a number that is not too small is at most four times as large. -/
theorem exists_div {m n : Nat} {q r : Int} (hn : 1 ≤ 2 * ((n : ℚ) * 2 ^ r)) (hhigh : (m : ℚ) * 2 ^ q ≤ 2 ^ 100) :
    ∃ k s, Precision.double.div (.finite false m q) (.finite false n r) = .finite false k s ∧
      (k : ℚ) * 2 ^ s ≤ 4 * (m * 2 ^ q) := by
  have hn0 : n ≠ 0 := by
    rintro rfl
    norm_num at hn
  have hquotient : ((m * Nat.pow 2 (q - r).toNat : Nat) : ℚ) / (n * Nat.pow 2 (r - q).toNat : Nat) =
      m * 2 ^ q / (n * 2 ^ r) := by
    have h := scaled_div m n (r - q)
    unfold scaled at h
    rw [neg_sub] at h
    rw [h, zpow_sub₀ two_ne_zero]
    field_simp
  have hpos : (0 : ℚ) < n * 2 ^ r := by positivity
  have hle : (m : ℚ) * 2 ^ q / (n * 2 ^ r) ≤ 2 * (m * 2 ^ q) := by
    rw [div_le_iff₀ hpos]
    have hnonneg : (0 : ℚ) ≤ m * 2 ^ q := by positivity
    nlinarith
  have hbound : 2 * (2 : ℚ) ^ 100 < (2 ^ Precision.double.bits - 1 / 2) * 2 ^ Precision.double.greatest := by
    refine lt_of_le_of_lt ?_ pow_308_lt
    calc 2 * (2 : ℚ) ^ 100 ≤ 10 ^ 100 := by norm_num
      _ ≤ 10 ^ 308 := pow_le_pow_right₀ (by norm_num) (by omega)
  obtain ⟨k, s, hround, hnearest⟩ := Precision.exists_round false
    (a := m * Nat.pow 2 (q - r).toNat) (b := n * Nat.pow 2 (r - q).toNat) isFormat_double
    (Nat.mul_pos (Nat.pos_of_ne_zero hn0) (Nat.pow_pos two_pos)) (by rw [hquotient]; linarith)
  refine ⟨k, s, ?_, ?_⟩
  · rw [← hround]
    exact if_neg hn0
  · have htwice := hnearest.le_two_mul (by positivity)
    rw [hquotient] at htwice
    linarith

end Double

end Number

/-! ## Powers of ten -/

namespace Json

/-- A number that is divided by a power of ten grows by rounding only, which happens at each of the steps. -/
theorem exists_divPower (fuel : Nat) {m : Nat} {q : Int} (k : Nat) (h : 4 ^ fuel * ((m : ℚ) * 2 ^ q) ≤ 2 ^ 100) :
    ∃ n r, divPower fuel (.finite false m q) k = .finite false n r ∧ (n : ℚ) * 2 ^ r ≤ 4 ^ fuel * (m * 2 ^ q) := by
  induction fuel generalizing m q k with
  | zero => exact ⟨m, q, rfl, by rw [pow_zero, one_mul]⟩
  | succ fuel ih =>
    have hnonneg : (0 : ℚ) ≤ m * 2 ^ q := by positivity
    have hfour : (1 : ℚ) ≤ 4 ^ fuel := one_le_pow₀ (by norm_num)
    have hsmall : (m : ℚ) * 2 ^ q ≤ 2 ^ 100 := by
      rw [pow_succ] at h
      nlinarith
    -- A step divides by a power that is at least one.
    have hstep {k : Nat} (hk : k ≤ 308) : ∃ n r, Precision.double.div (.finite false m q)
        (Precision.double.powerOfTen k) = .finite false n r ∧ (n : ℚ) * 2 ^ r ≤ 4 * (m * 2 ^ q) := by
      obtain ⟨n, r, hpower, -, hle⟩ := exists_powerOfTen hk
      rw [hpower]
      exact exists_div ((one_le_pow₀ (by norm_num)).trans hle) hsmall
    unfold divPower
    split
    · next hk =>
      obtain ⟨n, r, hdiv, hle⟩ := hstep hk
      refine ⟨n, r, hdiv, hle.trans ?_⟩
      rw [pow_succ]
      nlinarith
    · split
      · refine ⟨m, q, rfl, ?_⟩
        rw [pow_succ]
        nlinarith
      · obtain ⟨n, r, hdiv, hle⟩ := hstep (le_refl 308)
        have hnext : 4 ^ fuel * ((n : ℚ) * 2 ^ r) ≤ 4 ^ (fuel + 1) * (m * 2 ^ q) := by
          rw [pow_succ, mul_assoc]
          gcongr
        rw [hdiv]
        obtain ⟨n', r', hpower, hle'⟩ := ih (k - 308) (hnext.trans h)
        exact ⟨n', r', hpower, hle'.trans hnext⟩

/-! ## Numbers that are finite in single precision -/

/-- Half a unit above the greatest number of single precision. -/
def singleLimit : ℚ := (2 ^ 24 - 1 / 2) * 2 ^ 104

theorem convert_isFinite {negative : Bool} {m : Nat} {q : Int} (h : (m : ℚ) * 2 ^ q < singleLimit) :
    (Precision.single.convert (.finite negative m q)).isInfinite = false := by
  obtain ⟨n, r, hround, -⟩ := Precision.exists_round negative isFormat_single
    (a := m * Nat.pow 2 q.toNat) (b := Nat.pow 2 (-q).toNat) (Nat.pow_pos two_pos)
    (by rw [cast_scaled]; exact h)
  show (Precision.single.round negative _ _).isInfinite = false
  rw [hround]
  rfl

/-- Three roundings do not lead from the bound to the limit. -/
theorem lt_of_three_roundings {x : ℚ} (h : x * doubleShare ^ 3 ≤ singleBound) : x < singleLimit := by
  by_contra hx
  have hpos : (0 : ℚ) ≤ doubleShare ^ 3 := by norm_num [doubleShare]
  have hge := mul_le_mul_of_nonneg_right (not_lt.1 hx) hpos
  have hgap : singleBound < singleLimit * doubleShare ^ 3 := by
    norm_num [singleBound, singleLimit, doubleShare]
  linarith

section Scale

variable {m : Nat}

theorem mul_two_pow_le {k : Nat} {q : Int} (hm : m < 2 ^ 64) (h : (k : ℚ) * 2 ^ q * doubleShare ≤ m) :
    (k : ℚ) * 2 ^ q ≤ 2 ^ 65 := by
  have hm' : (m : ℚ) ≤ 2 ^ 64 := by exact_mod_cast hm.le
  have hshare := half_le_doubleShare
  have hnonneg : (0 : ℚ) ≤ k * 2 ^ q := by positivity
  nlinarith

/-- A product that is below the bound stays below the limit, whatever is lost on the way. -/
theorem exists_mul_power {t : Nat} (hm : m < 2 ^ 64) (ht : t ≤ 38) (hbound : (m : ℚ) * 10 ^ t ≤ singleBound) :
    ∃ l s, Precision.double.mul (Precision.double.ofNat m) (Precision.double.powerOfTen t) = .finite false l s ∧
      (l : ℚ) * 2 ^ s < singleLimit := by
  obtain ⟨k, q, hk, hkle, hlek⟩ := exists_ofNat hm
  obtain ⟨n, r, hn, hnle, hlen⟩ := exists_powerOfTen (k := t) (by omega)
  have hshare := half_le_doubleShare
  have hpower : (10 : ℚ) ^ t ≤ 10 ^ 38 := pow_le_pow_right₀ (by norm_num) ht
  have hone : (1 : ℚ) ≤ 10 ^ t := one_le_pow₀ (by norm_num)
  have hnonneg : (0 : ℚ) ≤ k * 2 ^ q := by positivity
  have hnonneg' : (0 : ℚ) ≤ n * 2 ^ r := by positivity
  have hsmall := mul_two_pow_le hm hkle
  have hsmall' : (n : ℚ) * 2 ^ r ≤ 2 * 10 ^ 38 := by nlinarith
  have hlow : k * n ≠ 0 → (2 : ℚ) ^ (-1000 : Int) ≤ k * 2 ^ q * (n * 2 ^ r) := by
    intro h
    have hk0 : 0 < k := Nat.pos_of_ne_zero fun h0 => h (by rw [h0, Nat.zero_mul])
    have hpos : (0 : ℚ) < k * 2 ^ q * doubleShare := mul_pos (by positivity) (by linarith)
    have hm1 : (1 : ℚ) ≤ m := by exact_mod_cast (Nat.cast_pos.1 (hpos.trans_le hkle) : 0 < m)
    calc (2 : ℚ) ^ (-1000 : Int) ≤ 2 ^ (-2 : Int) := zpow_le_zpow_right₀ one_le_two (by decide)
      _ = 1 / 2 * (1 / 2) := by norm_num
      _ ≤ k * 2 ^ q * (n * 2 ^ r) := by
        apply mul_le_mul _ _ (by norm_num) hnonneg <;> linarith
  have hhigh : (k : ℚ) * 2 ^ q * (n * 2 ^ r) ≤ 10 ^ 308 := by
    calc (k : ℚ) * 2 ^ q * (n * 2 ^ r) ≤ 2 ^ 65 * (2 * 10 ^ 38) := by gcongr
      _ ≤ 10 ^ 60 := by norm_num
      _ ≤ 10 ^ 308 := pow_le_pow_right₀ (by norm_num) (by omega)
  obtain ⟨l, s, hmul, hle⟩ := exists_mul hlow hhigh
  refine ⟨l, s, by rw [hk, hn, hmul], lt_of_three_roundings ?_⟩
  calc (l : ℚ) * 2 ^ s * doubleShare ^ 3 = l * 2 ^ s * doubleShare * (doubleShare * doubleShare) := by ring
    _ ≤ k * 2 ^ q * (n * 2 ^ r) * (doubleShare * doubleShare) := by gcongr
    _ = k * 2 ^ q * doubleShare * (n * 2 ^ r * doubleShare) := by ring
    _ ≤ m * 10 ^ t := by gcongr
    _ ≤ singleBound := hbound

theorem exists_div_power (hm : m < 2 ^ 64) (k : Nat) :
    ∃ n r, divPower 8 (Precision.double.ofNat m) k = .finite false n r ∧ (n : ℚ) * 2 ^ r < singleLimit := by
  obtain ⟨l, q, hl, hlle, -⟩ := exists_ofNat hm
  have hsmall := mul_two_pow_le hm hlle
  obtain ⟨n, r, hn, hle⟩ := exists_divPower 8 (m := l) (q := q) k (by linarith)
  refine ⟨n, r, by rw [hl, hn], ?_⟩
  unfold singleLimit
  linarith

/-- A significand of 64 bits times a power of ten is a number of double precision that is finite in single precision
    too, if the product is below the bound. -/
theorem exists_scaleDouble {e : Int} (hm : m < 2 ^ 64) (he : e ≤ 38)
    (hbound : 0 ≤ e → (m : ℚ) * 10 ^ e ≤ singleBound) (negative : Bool) :
    ∃ y, (∀ s, scaleDouble negative m e s = .ok (.double y, s)) ∧
      (Precision.single.convert y).isInfinite = false := by
  have hsigned (n : Nat) (r : Int) :
      (if negative then (Binary.finite false n r).neg else .finite false n r) = .finite negative n r := by
    cases negative <;> rfl
  unfold scaleDouble
  by_cases h0 : 0 ≤ e
  · obtain ⟨t, rfl⟩ := Int.eq_ofNat_of_zero_le h0
    obtain ⟨l, r, hmul, hlt⟩ := exists_mul_power hm (by omega) (hbound h0)
    refine ⟨.finite negative l r, ?_, convert_isFinite hlt⟩
    intro s
    simp only [Int.toNat_natCast, hmul, hsigned, if_pos h0, if_pos (show (t : Int) ≤ 308 by omega)]
    rfl
  · obtain ⟨n, r, hdiv, hlt⟩ := exists_div_power hm (-e).toNat
    simp only [if_neg h0, hdiv, hsigned]
    exact ⟨_, fun _ => rfl, convert_isFinite hlt⟩

end Scale

end Json

end ClusterPanel
