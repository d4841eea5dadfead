import Mathlib.Tactic.LinearCombination
import ClusterPanel.Number.Shortest
import ClusterPanel.Proofs.Rounding
import ClusterPanel.Proofs.Timestamps

/- Which decimal a number is written as. It is off by at most half a unit in the last place of the number
   (`shortest_near`), since the search only takes decimals that read back. So the decimal of a number of single
   precision stays below what is rounded to an infinite one, that of the greatest number by a quarter of a unit
   (`shortest_le_single`). -/
namespace ClusterPanel.Number

open Text

/-- The fraction that a decimal is. -/
def Decimal.value (d : Decimal) : ℚ := d.digits * 10 ^ d.exponent

/-! ## Comparing decimals and binary numbers -/

theorem zpow_mul_toNat {x : ℚ} (hx : x ≠ 0) (i : Int) : x ^ i * x ^ (-i).toNat = x ^ i.toNat := by
  rw [← zpow_natCast, ← zpow_natCast, ← zpow_add₀ hx]
  congr 1
  omega

/-- What is compared are the two numbers, both multiplied by the same powers. -/
theorem compareScaled_eq (a : Nat) (i : Int) (n : Nat) (j : Int) :
    ∃ x y : Nat, ∃ c : ℚ, 0 < c ∧ (x : ℚ) = a * 10 ^ i * c ∧ (y : ℚ) = n * 2 ^ j * c ∧
      compareScaled a i n j = compare x y := by
  refine ⟨_, _, 2 ^ (-j).toNat * 10 ^ (-i).toNat, by positivity, ?_, ?_, rfl⟩
  · rw [Nat.cast_mul, Nat.cast_mul, Nat.pow_eq, Nat.pow_eq, Nat.cast_pow, Nat.cast_pow]
    push_cast
    rw [← zpow_mul_toNat (by norm_num) i]
    ring
  · rw [Nat.cast_mul, Nat.cast_mul, Nat.pow_eq, Nat.pow_eq, Nat.cast_pow, Nat.cast_pow]
    push_cast
    rw [← zpow_mul_toNat two_ne_zero j]
    ring

theorem compareScaled_ne_gt {a n : Nat} {i j : Int} : compareScaled a i n j ≠ .gt ↔ (a : ℚ) * 10 ^ i ≤ n * 2 ^ j := by
  obtain ⟨x, y, c, hc, hx, hy, h⟩ := compareScaled_eq a i n j
  rw [h, Nat.compare_ne_gt, ← Nat.cast_le (α := ℚ), hx, hy, mul_le_mul_iff_left₀ hc]

theorem compareScaled_ne_lt {a n : Nat} {i j : Int} : compareScaled a i n j ≠ .lt ↔ (n : ℚ) * 2 ^ j ≤ a * 10 ^ i := by
  obtain ⟨x, y, c, hc, hx, hy, h⟩ := compareScaled_eq a i n j
  rw [h, Nat.compare_ne_lt, ← Nat.cast_le (α := ℚ), hx, hy, mul_le_mul_iff_left₀ hc]

/-! ## Decimals that read back -/

/-- A decimal is as near to `m * 2 ^ q` as one that reads back has to be. -/
def Decimal.Near (m : Nat) (q : Int) (d : Decimal) : Prop := |d.value - m * 2 ^ q| ≤ 2 ^ (q - 1)

section Search

variable {p : Precision} {m : Nat} {q : Int} {d : Decimal}

theorem near_of_readsBack (h : p.readsBack m q d = true) : d.Near m q := by
  unfold Precision.readsBack at h
  dsimp only at h
  generalize hlow : (if m == Nat.pow 2 (p.bits - 1) && decide (p.least < q) then 4 * m - 1 else 4 * m - 2) = low at h
  rw [Bool.and_eq_true] at h
  have habove : (low : ℚ) * 2 ^ (q - 2) ≤ d.digits * 10 ^ d.exponent :=
    compareScaled_ne_lt.1 fun hc => by simp [hc] at h
  have hbelow : (d.digits : ℚ) * 10 ^ d.exponent ≤ (4 * m + 2 : Nat) * 2 ^ (q - 2) :=
    compareScaled_ne_gt.1 fun hc => by simp [hc] at h
  -- Where the gap below is half as wide, the decimal is nearer still.
  have hleast : (4 * m : ℚ) ≤ low + 2 := by
    have hnat : 4 * m ≤ low + 2 := by
      rw [← hlow]
      split <;> omega
    exact_mod_cast hnat
  have hquarter : (2 : ℚ) ^ q = 4 * 2 ^ (q - 2) := by
    rw [zpow_sub₀ two_ne_zero]
    norm_num
    ring
  have hhalf : (2 : ℚ) ^ (q - 1) = 2 * 2 ^ (q - 2) := by
    rw [← zpow_one_add₀ two_ne_zero]
    congr 1
    omega
  have hpos : (0 : ℚ) < 2 ^ (q - 2) := by positivity
  have hleast' := mul_le_mul_of_nonneg_right hleast hpos.le
  unfold Decimal.Near Decimal.value
  rw [abs_le, hquarter, hhalf]
  push_cast at hbelow
  constructor <;> linarith

theorem near_of_onGrid? {e : Int} (h : p.onGrid? m q e = some d) : d.Near m q := by
  unfold Precision.onGrid? at h
  dsimp only at h
  split at h
  · next hdown _ =>
    cases h
    exact near_of_readsBack hdown
  · next _ hup =>
    cases h
    exact near_of_readsBack hup
  · cases h
  · next hdown hup =>
    split at h
    · cases h
      exact near_of_readsBack hdown
    · cases h
      exact near_of_readsBack hup
    · cases h
      split
      · exact near_of_readsBack hdown
      · exact near_of_readsBack hup

theorem value_strip (fuel : Nat) (d : Decimal) : (d.strip fuel).value = d.value := by
  induction fuel generalizing d with
  | zero => rfl
  | succ fuel ih =>
    unfold Decimal.strip
    split
    · next h =>
      rw [ih]
      unfold Decimal.value
      have hdigits : (d.digits : ℚ) = (d.digits / 10 : Nat) * 10 := by
        exact_mod_cast (Nat.div_mul_cancel (Nat.dvd_of_mod_eq_zero h.1)).symm
      rw [hdigits, zpow_add_one₀ (by norm_num)]
      ring
    · rfl

/-- The decimal that a number is written as is off by at most half a unit in the last place of the number. -/
theorem shortest_near (p : Precision) (m : Nat) (q : Int) : (p.shortest m q).Near m q := by
  unfold Precision.shortest
  dsimp only
  split
  · next d h =>
    obtain ⟨n, -, hn⟩ := List.exists_of_findSome?_eq_some h
    unfold Decimal.Near
    rw [value_strip]
    exact near_of_onGrid? hn
  · -- The exact value stands in.
    have hexact {d : Decimal} (h : d.value = m * 2 ^ q) : d.Near m q := by
      unfold Decimal.Near
      rw [h, sub_self, abs_zero]
      positivity
    split
    · next hq =>
      apply hexact
      unfold Decimal.value
      rw [zpow_zero, mul_one, Nat.cast_mul, cast_pow_two, Int.toNat_of_nonneg hq]
    · next hq =>
      apply hexact
      have hfive := zpow_mul_toNat (by norm_num : (5 : ℚ) ≠ 0) q
      rw [Int.toNat_of_nonpos (by omega : q ≤ 0), pow_zero] at hfive
      have hten : (10 : ℚ) ^ q = 2 ^ q * 5 ^ q := by
        rw [← mul_zpow]
        norm_num
      unfold Decimal.value
      rw [Nat.cast_mul, Nat.pow_eq, Nat.cast_pow, hten, Nat.cast_ofNat]
      linear_combination (m : ℚ) * 2 ^ q * hfive

end Search

/-! ## How large a decimal is -/

namespace Decimal

/-- The exponent of the first digit. -/
def leading (d : Decimal) : Int := d.exponent + (numeral d.digits).length - 1

theorem length_numeral_pos (n : Nat) : 0 < (numeral n).length := List.length_pos_iff.2 (numeral_ne_nil n)

theorem digits_pos {d : Decimal} (h : 0 < d.value) : 0 < d.digits := by
  rw [Nat.pos_iff_ne_zero]
  intro h0
  unfold value at h
  rw [h0, Nat.cast_zero, zero_mul] at h
  exact lt_irrefl _ h

/-- The first digit gives the size of a decimal up to a factor of ten. -/
theorem leading_bounds {d : Decimal} (h : 0 < d.value) :
    (10 : ℚ) ^ d.leading ≤ d.value ∧ d.value < 10 ^ (d.leading + 1) := by
  have hlength := length_numeral_pos d.digits
  have hdigits := digits_pos h
  obtain ⟨k, hk⟩ : ∃ k, (numeral d.digits).length = k + 1 := ⟨_, (Nat.sub_one_add_one hlength.ne').symm⟩
  have hlow : 10 ^ k ≤ d.digits := by
    rcases Nat.eq_zero_or_pos k with rfl | hpos
    · exact hdigits
    · rw [← Nat.not_lt, ← Nat.length_toDigits_le_iff (by decide) hpos]
      unfold numeral at hk
      omega
  have hhigh : d.digits < 10 ^ (k + 1) := by
    rw [← Nat.length_toDigits_le_iff (by decide) (by omega)]
    exact hk.le
  have hlow' : (10 : ℚ) ^ (k : Int) ≤ d.digits := by
    rw [zpow_natCast]
    exact_mod_cast hlow
  have hhigh' : (d.digits : ℚ) < 10 ^ ((k : Int) + 1) := by
    rw [← Nat.cast_add_one, zpow_natCast]
    exact_mod_cast hhigh
  have hten : (10 : ℚ) ≠ 0 := by norm_num
  have hleading : d.leading = k + d.exponent := by
    unfold leading
    omega
  unfold value
  constructor
  · rw [hleading, zpow_add₀ hten]
    gcongr
  · rw [hleading, add_right_comm, zpow_add₀ hten]
    gcongr

end Decimal

section Single

variable {m : Nat} {q : Int}

theorem shortest_le_single (hm : m < 2 ^ 24) (hq : q ≤ 104) :
    (Precision.single.shortest m q).value ≤ singleBound := by
  unfold singleBound
  by_cases hgreatest : m = 2 ^ 24 - 1 ∧ q = 104
  · obtain ⟨rfl, rfl⟩ := hgreatest
    have hshortest : Precision.single.shortest (2 ^ 24 - 1) 104 = ⟨34028235, 31⟩ := by decide +kernel
    rw [hshortest, Decimal.value]
    norm_num
  · have hnear := (abs_le.1 (shortest_near Precision.single m q)).2
    rw [zpow_sub_one₀ two_ne_zero] at hnear
    have hvalue : (Precision.single.shortest m q).value ≤ (m + 1 / 2) * 2 ^ q := by linarith
    refine hvalue.trans ?_
    rcases hq.lt_or_eq with hlt | rfl
    · have hm' : (m : ℚ) ≤ 2 ^ 24 - 1 := by
        rw [le_sub_iff_add_le]
        exact_mod_cast hm
      calc ((m : ℚ) + 1 / 2) * 2 ^ q ≤ (2 ^ 24 - 1 + 1 / 2) * 2 ^ (103 : Int) := by
            gcongr
            · exact one_le_two
            · omega
        _ ≤ (2 ^ 24 - 3 / 4) * 2 ^ 104 := by norm_num
    · have hm' : (m : ℚ) ≤ 2 ^ 24 - 2 := by
        have hlt : m + 2 ≤ 2 ^ 24 := by omega
        rw [le_sub_iff_add_le]
        exact_mod_cast hlt
      calc ((m : ℚ) + 1 / 2) * 2 ^ (104 : Int) ≤ (2 ^ 24 - 2 + 1 / 2) * 2 ^ (104 : Int) := by gcongr
        _ ≤ (2 ^ 24 - 3 / 4) * 2 ^ 104 := by norm_num

theorem le_shortest_single (hm : 0 < m) (hq : -149 ≤ q) :
    (2 : ℚ) ^ (-150 : Int) ≤ (Precision.single.shortest m q).value := by
  have hnear := (abs_le.1 (shortest_near Precision.single m q)).1
  have hm' : (1 : ℚ) ≤ m := by exact_mod_cast hm
  have hmul : 1 * (2 : ℚ) ^ q ≤ m * 2 ^ q := by gcongr
  calc (2 : ℚ) ^ (-150 : Int) ≤ 2 ^ (q - 1) := zpow_le_zpow_right₀ one_le_two (by omega)
    _ ≤ (Precision.single.shortest m q).value := by
      rw [zpow_sub_one₀ two_ne_zero] at hnear ⊢
      linarith

theorem shortest_single_pos (hm : 0 < m) (hq : -149 ≤ q) : 0 < (Precision.single.shortest m q).value :=
  lt_of_lt_of_le (by positivity) (le_shortest_single hm hq)

/-- The first digit of a number of single precision has an exponent of at most two digits. -/
theorem leading_single (hm : 0 < m) (hm' : m < 2 ^ 24) (hq : -149 ≤ q) (hq' : q ≤ 104) :
    -46 ≤ (Precision.single.shortest m q).leading ∧ (Precision.single.shortest m q).leading ≤ 38 := by
  have hlow := le_shortest_single hm hq
  have hhigh := shortest_le_single hm' hq'
  obtain ⟨hle, hlt⟩ := Decimal.leading_bounds (shortest_single_pos hm hq)
  constructor
  · by_contra h
    have hpow : (10 : ℚ) ^ ((Precision.single.shortest m q).leading + 1) ≤ 10 ^ (-46 : Int) :=
      zpow_le_zpow_right₀ (by norm_num) (by omega)
    have hsmall : (10 : ℚ) ^ (-46 : Int) < 2 ^ (-150 : Int) := by norm_num
    linarith
  · by_contra h
    have hpow : (10 : ℚ) ^ (39 : Int) ≤ 10 ^ (Precision.single.shortest m q).leading :=
      zpow_le_zpow_right₀ (by norm_num) (by omega)
    have hlarge : singleBound < 10 ^ (39 : Int) := by norm_num [singleBound]
    linarith

end Single

end ClusterPanel.Number
