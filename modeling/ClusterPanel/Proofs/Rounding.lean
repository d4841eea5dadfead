import Mathlib.Algebra.Order.Field.Power
import Mathlib.Tactic.FieldSimp
import Mathlib.Tactic.Linarith
import Mathlib.Tactic.Positivity
import Mathlib.Tactic.Ring
import ClusterPanel.Number.Binary

/- How far rounding is off. A fraction is rounded to a number of the format that is off by at most half a unit in its
   last place (`nearest_of_round`), and to an infinite one only from half a unit above the greatest number on
   (`exists_round`). A significand has all of its bits unless the number is one of the least ones (`Nearest.full`), so
   from there on the error is small next to the number itself (`Nearest.le_of_full`). -/
namespace ClusterPanel.Number

theorem cast_pow_two (k : Nat) : ((Nat.pow 2 k : Nat) : ℚ) = 2 ^ (k : Int) := by
  rw [zpow_natCast]
  exact Nat.cast_pow 2 k

/-! ## Quotients -/

theorem scaled_pos {a b : Nat} (hb : 0 < b) (q : Int) : 0 < (scaled a b q).2 :=
  Nat.mul_pos hb (Nat.pow_pos (by omega))

theorem scaled_div (a b : Nat) (q : Int) :
    ((scaled a b q).1 : ℚ) / (scaled a b q).2 = a / b / 2 ^ q := by
  unfold scaled
  rw [Nat.cast_mul, Nat.cast_mul, cast_pow_two, cast_pow_two]
  rcases le_total 0 q with h | h
  · rw [Int.toNat_of_nonneg h, Int.toNat_of_nonpos (by omega), Nat.cast_zero, zpow_zero, mul_one, div_div]
  · rw [Int.toNat_of_nonneg (by omega), Int.toNat_of_nonpos h, Nat.cast_zero, zpow_zero, mul_one, zpow_neg,
      ← div_eq_mul_inv, div_right_comm]

/-- The nearest integer is off by at most one half. -/
theorem roundQuotient_error {a b : Nat} (hb : 0 < b) : |(roundQuotient a b : ℚ) - a / b| ≤ 1 / 2 := by
  have hb' : (0 : ℚ) < b := Nat.cast_pos.2 hb
  have hquotient : (a : ℚ) / b = (a / b : Nat) + (a % b : Nat) / b := by
    have hdiv : ((b * (a / b) + a % b : Nat) : ℚ) = a := by rw [Nat.div_add_mod]
    rw [div_eq_iff hb'.ne', add_mul, div_mul_cancel₀ _ hb'.ne', ← hdiv]
    push_cast
    ring
  have hrest : ((a % b : Nat) : ℚ) / b < 1 := by
    rw [div_lt_one hb']
    exact_mod_cast Nat.mod_lt a hb
  rw [hquotient, abs_le]
  unfold roundQuotient
  dsimp only
  split
  · next h =>
    have hhalf : b ≤ 2 * (a % b) := by
      simp only [Bool.or_eq_true, Bool.and_eq_true, decide_eq_true_eq, beq_iff_eq] at h
      omega
    have hhalf' : 1 / 2 ≤ ((a % b : Nat) : ℚ) / b := by
      rw [div_le_div_iff₀ two_pos hb', one_mul, mul_comm]
      exact_mod_cast hhalf
    rw [Nat.cast_add, Nat.cast_one]
    constructor <;> linarith
  · next h =>
    have hhalf : 2 * (a % b) ≤ b := by
      simp only [Bool.or_eq_true, decide_eq_true_eq] at h
      omega
    have hhalf' : ((a % b : Nat) : ℚ) / b ≤ 1 / 2 := by
      rw [div_le_div_iff₀ hb' two_pos, one_mul, mul_comm]
      exact_mod_cast hhalf
    have hnonneg : (0 : ℚ) ≤ (a % b : Nat) / b := by positivity
    constructor <;> linarith

/-! ## Significands -/

namespace Precision

/-- The exponent of the last place to which a fraction is rounded. -/
def lastPlace (p : Precision) (a b : Nat) : Int :=
  let guess := max p.least ((a.log2 : Int) - b.log2 - p.bits)
  let s := scaled a b guess
  if s.1 / s.2 < Nat.pow 2 p.bits then guess else guess + 1

/-- The significand and the exponent to which a fraction is rounded, before it is seen whether they are too large. -/
def rounded (p : Precision) (a b : Nat) : Nat × Int :=
  let t := scaled a b (p.lastPlace a b)
  let m := roundQuotient t.1 t.2
  if m = Nat.pow 2 p.bits then (Nat.pow 2 (p.bits - 1), p.lastPlace a b + 1) else (m, p.lastPlace a b)

variable {p : Precision} {a b m : Nat} {q : Int} {negative : Bool}

theorem round_eq (ha : a ≠ 0) : p.round negative a b =
    if (p.rounded a b).2 > p.greatest then .infinite negative
    else .finite negative (p.rounded a b).1 (p.rounded a b).2 := by
  unfold round
  rw [if_neg ha]
  rfl

theorem least_le_lastPlace : p.least ≤ p.lastPlace a b := by
  unfold lastPlace
  dsimp only
  split <;> omega

/-- A quotient of scaled numbers, as the fraction that it is the whole part of. -/
theorem scaled_div_lt_iff (hb : 0 < b) (n : Nat) :
    (scaled a b q).1 / (scaled a b q).2 < n ↔ (a : ℚ) / b < n * 2 ^ q := by
  have hpos : (0 : ℚ) < (scaled a b q).2 := Nat.cast_pos.2 (scaled_pos hb q)
  rw [Nat.div_lt_iff_lt_mul (scaled_pos hb q), ← div_lt_iff₀ (zpow_pos two_pos q), ← scaled_div, div_lt_iff₀ hpos]
  exact_mod_cast Iff.rfl

/-- The logarithms give the size of a fraction up to a factor of two. -/
theorem log2_bounds (ha : a ≠ 0) (hb : 0 < b) :
    (2 : ℚ) ^ ((a.log2 : Int) - b.log2 - 1) ≤ a / b ∧ (a : ℚ) / b < 2 ^ ((a.log2 : Int) - b.log2 + 1) := by
  have hb' : (0 : ℚ) < b := Nat.cast_pos.2 hb
  have ha₁ : (2 : ℚ) ^ (a.log2 : Int) ≤ a := by
    rw [zpow_natCast]
    exact_mod_cast Nat.log2_self_le ha
  have ha₂ : (a : ℚ) < 2 ^ ((a.log2 : Int) + 1) := by
    rw [← Nat.cast_add_one, zpow_natCast]
    exact_mod_cast Nat.lt_log2_self
  have hb₁ : (2 : ℚ) ^ (b.log2 : Int) ≤ b := by
    rw [zpow_natCast]
    exact_mod_cast Nat.log2_self_le hb.ne'
  have hb₂ : (b : ℚ) < 2 ^ ((b.log2 : Int) + 1) := by
    rw [← Nat.cast_add_one, zpow_natCast]
    exact_mod_cast Nat.lt_log2_self
  constructor
  · rw [le_div_iff₀ hb']
    calc (2 : ℚ) ^ ((a.log2 : Int) - b.log2 - 1) * b
        ≤ 2 ^ ((a.log2 : Int) - b.log2 - 1) * 2 ^ ((b.log2 : Int) + 1) := by gcongr
      _ = 2 ^ (a.log2 : Int) := by rw [← zpow_add₀ two_ne_zero]; congr 1; omega
      _ ≤ a := ha₁
  · rw [div_lt_iff₀ hb']
    calc (a : ℚ) < 2 ^ ((a.log2 : Int) + 1) := ha₂
      _ = 2 ^ ((a.log2 : Int) - b.log2 + 1) * 2 ^ (b.log2 : Int) := by rw [← zpow_add₀ two_ne_zero]; congr 1; omega
      _ ≤ 2 ^ ((a.log2 : Int) - b.log2 + 1) * b := by gcongr

/-- At the last place, the fraction has no more than the bits of the format before the point. -/
theorem div_lt_of_lastPlace (ha : a ≠ 0) (hb : 0 < b) : (a : ℚ) / b < 2 ^ (p.bits : Int) * 2 ^ p.lastPlace a b := by
  have hlog := (log2_bounds ha hb).2
  unfold lastPlace
  dsimp only
  split
  · next h => rwa [scaled_div_lt_iff hb, cast_pow_two] at h
  · refine hlog.trans_le ?_
    rw [← zpow_add₀ two_ne_zero]
    exact zpow_le_zpow_right₀ one_le_two (by omega)

/-- At the last place, the fraction has all of its bits, unless there is no smaller place. -/
theorem le_div_of_lastPlace (ha : a ≠ 0) (hb : 0 < b) (h : p.least < p.lastPlace a b) :
    (2 : ℚ) ^ ((p.bits : Int) - 1) * 2 ^ p.lastPlace a b ≤ a / b := by
  have hlog := (log2_bounds ha hb).1
  unfold lastPlace at h ⊢
  dsimp only at h ⊢
  rw [← zpow_add₀ two_ne_zero]
  split at h
  · next hs =>
    rw [if_pos hs]
    exact (zpow_le_zpow_right₀ one_le_two (by omega)).trans hlog
  · next hs =>
    rw [if_neg hs]
    rw [scaled_div_lt_iff hb, not_lt, cast_pow_two, ← zpow_add₀ two_ne_zero] at hs
    exact (zpow_le_zpow_right₀ one_le_two (by omega)).trans hs

/-! ## Errors -/

/-- The significand at the last place is off by at most one half. -/
theorem significand_error (hb : 0 < b) (q : Int) :
    |(roundQuotient (scaled a b q).1 (scaled a b q).2 : ℚ) * 2 ^ q - a / b| ≤ 2 ^ (q - 1) := by
  have hpos : (0 : ℚ) < 2 ^ q := zpow_pos two_pos q
  have herror := roundQuotient_error (a := (scaled a b q).1) (scaled_pos (a := a) hb q)
  have hmul := mul_le_mul_of_nonneg_right herror hpos.le
  rw [scaled_div, ← abs_of_pos hpos, ← abs_mul, abs_of_pos hpos, sub_mul, div_mul_cancel₀ _ hpos.ne'] at hmul
  rw [zpow_sub_one₀ two_ne_zero]
  linarith

/-- The format has bits and places for them. -/
structure IsFormat (p : Precision) : Prop where
  bits : 0 < p.bits
  places : p.least ≤ p.greatest

/-- The significand and the exponent are those of a number of the format, all bits of the significand being used unless
    there is no smaller place, and this number is the fraction up to half a unit in its last place. -/
structure Nearest (p : Precision) (r : ℚ) (m : Nat) (q : Int) : Prop where
  bits : m < 2 ^ p.bits
  least : p.least ≤ q
  normal : p.least < q → 2 ^ (p.bits - 1) ≤ m
  error : |(m : ℚ) * 2 ^ q - r| ≤ 2 ^ (q - 1)

theorem le_roundQuotient (a b : Nat) : a / b ≤ roundQuotient a b ∧ roundQuotient a b ≤ a / b + 1 := by
  unfold roundQuotient
  dsimp only
  split <;> omega

theorem nearest_rounded (hp : p.IsFormat) (ha : a ≠ 0) (hb : 0 < b) :
    p.Nearest (a / b) (p.rounded a b).1 (p.rounded a b).2 := by
  have herror := significand_error (a := a) hb (p.lastPlace a b)
  have hrange := le_roundQuotient (scaled a b (p.lastPlace a b)).1 (scaled a b (p.lastPlace a b)).2
  have hleast : p.least ≤ p.lastPlace a b := least_le_lastPlace
  have hlt := div_lt_of_lastPlace (p := p) ha hb
  rw [← cast_pow_two, ← scaled_div_lt_iff hb, Nat.pow_eq] at hlt
  obtain ⟨k, hk⟩ : ∃ k, p.bits = k + 1 := ⟨p.bits - 1, (Nat.sub_one_add_one hp.bits.ne').symm⟩
  unfold rounded
  dsimp only
  rw [Nat.pow_eq, Nat.pow_eq]
  split
  · next hm =>
    -- The significand was rounded up to one bit more, so the last place moves.
    refine ⟨?_, by omega, fun _ => Nat.le_refl _, ?_⟩
    · rw [hk, Nat.add_sub_cancel]
      exact Nat.pow_lt_pow_succ one_lt_two
    · rw [hm] at herror
      have hsame : ((2 ^ (p.bits - 1) : Nat) : ℚ) * 2 ^ (p.lastPlace a b + 1) =
          (2 ^ p.bits : Nat) * 2 ^ p.lastPlace a b := by
        rw [hk, Nat.add_sub_cancel, zpow_add_one₀ two_ne_zero, pow_succ]
        push_cast
        ring
      rw [hsame]
      exact herror.trans (zpow_le_zpow_right₀ one_le_two (by omega))
  · next hm =>
    refine ⟨by omega, hleast, ?_, herror⟩
    intro h
    have hle := le_div_of_lastPlace ha hb h
    rw [hk] at hle ⊢
    rw [Nat.cast_add_one, add_sub_cancel_right, ← cast_pow_two, ← not_lt, ← scaled_div_lt_iff hb, Nat.pow_eq] at hle
    rw [Nat.add_sub_cancel]
    omega

/-- Below half a unit above the greatest number of the format, the exponent is not too large. -/
theorem rounded_le_greatest (hp : p.IsFormat) (ha : a ≠ 0) (hb : 0 < b)
    (h : (a : ℚ) / b < (2 ^ p.bits - 1 / 2) * 2 ^ p.greatest) : (p.rounded a b).2 ≤ p.greatest := by
  by_contra hgreat
  apply not_le.2 h
  have herror := (abs_le.1 (significand_error (a := a) hb (p.lastPlace a b))).2
  obtain ⟨k, hk⟩ : ∃ k, p.bits = k + 1 := ⟨p.bits - 1, (Nat.sub_one_add_one hp.bits.ne').symm⟩
  have hone : (1 : ℚ) ≤ 2 ^ p.bits := one_le_pow₀ one_le_two
  unfold rounded at hgreat
  dsimp only at hgreat
  split at hgreat
  · next hm =>
    rw [hm, cast_pow_two, zpow_natCast, zpow_sub_one₀ two_ne_zero] at herror
    calc (2 ^ p.bits - 1 / 2) * (2 : ℚ) ^ p.greatest
        ≤ (2 ^ p.bits - 1 / 2) * 2 ^ p.lastPlace a b := by
          apply mul_le_mul_of_nonneg_left
          · exact zpow_le_zpow_right₀ one_le_two (by omega)
          · linarith
      _ ≤ a / b := by linarith
  · have hle := le_div_of_lastPlace (p := p) ha hb (by have := hp.places; omega)
    have hpos : (0 : ℚ) < 2 ^ p.greatest := zpow_pos two_pos _
    calc (2 ^ p.bits - 1 / 2) * (2 : ℚ) ^ p.greatest
        ≤ 2 ^ p.bits * 2 ^ p.greatest := by linarith
      _ = 2 ^ ((p.bits : Int) - 1) * 2 ^ (p.greatest + 1) := by
          rw [← zpow_natCast, ← zpow_add₀ two_ne_zero, ← zpow_add₀ two_ne_zero]
          congr 1
          omega
      _ ≤ 2 ^ ((p.bits : Int) - 1) * 2 ^ p.lastPlace a b := by
          apply mul_le_mul_of_nonneg_left
          · exact zpow_le_zpow_right₀ one_le_two (by omega)
          · positivity
      _ ≤ a / b := hle

/-- What is rounded to a finite number is rounded to the nearest one. -/
theorem nearest_of_round (hp : p.IsFormat) (hb : 0 < b) {s : Bool} (h : p.round negative a b = .finite s m q) :
    p.Nearest (a / b) m q ∧ q ≤ p.greatest := by
  by_cases ha : a = 0
  · subst ha
    cases h
    refine ⟨⟨Nat.pow_pos two_pos, le_rfl, fun h => absurd h (lt_irrefl _), ?_⟩, hp.places⟩
    rw [Nat.cast_zero, zero_mul, zero_div, sub_zero, abs_zero]
    positivity
  · rw [round_eq ha] at h
    split at h
    · cases h
    · next hgreatest =>
      cases h
      exact ⟨nearest_rounded hp ha hb, not_lt.1 hgreatest⟩

/-- Below half a unit above the greatest number of the format, a fraction is rounded to a finite number. -/
theorem exists_round (negative : Bool) (hp : p.IsFormat) (hb : 0 < b)
    (h : (a : ℚ) / b < (2 ^ p.bits - 1 / 2) * 2 ^ p.greatest) :
    ∃ m q, p.round negative a b = .finite negative m q ∧ p.Nearest (a / b) m q := by
  by_cases ha : a = 0
  · subst ha
    refine ⟨0, p.least, rfl, ?_⟩
    exact (nearest_of_round hp hb (rfl : p.round negative 0 b = .finite negative 0 p.least)).1
  · refine ⟨_, _, ?_, nearest_rounded hp ha hb⟩
    rw [round_eq ha, if_neg (not_lt.2 (rounded_le_greatest hp ha hb h))]

namespace Nearest

variable {r : ℚ}

/-- Rounding at most doubles a number. -/
theorem le_two_mul (h : p.Nearest r m q) (hr : 0 ≤ r) : (m : ℚ) * 2 ^ q ≤ 2 * r := by
  have herror := (abs_le.1 h.error).2
  rw [zpow_sub_one₀ two_ne_zero] at herror
  have hpos : (0 : ℚ) < 2 ^ q := zpow_pos two_pos q
  rcases Nat.eq_zero_or_pos m with rfl | hm
  · rw [Nat.cast_zero, zero_mul]
    linarith
  · have hm' : (1 : ℚ) ≤ m := by exact_mod_cast hm
    nlinarith

/-- A number that is not too small has all bits of its significand. -/
theorem full (h : p.Nearest r m q) (hr : 2 ^ (p.bits - 1) * 2 ^ p.least ≤ r) :
    2 ^ (p.bits - 1) ≤ m := by
  rcases h.least.lt_or_eq with hlt | rfl
  · exact h.normal hlt
  · have herror := (abs_le.1 h.error).1
    rw [zpow_sub_one₀ two_ne_zero] at herror
    have hpos : (0 : ℚ) < 2 ^ p.least := zpow_pos two_pos _
    have hlt : ((2 ^ (p.bits - 1) : Nat) : ℚ) < m + 1 := by
      push_cast
      nlinarith
    exact Nat.lt_succ_iff.1 (by exact_mod_cast hlt)

/-- The error is small next to a number with all bits. -/
theorem le_of_full (h : p.Nearest r m q) (hp : p.IsFormat) (hm : 2 ^ (p.bits - 1) ≤ m) :
    (m : ℚ) * 2 ^ q * (1 - 2 ^ (-p.bits : Int)) ≤ r := by
  have herror := (abs_le.1 h.error).2
  have hm' : (2 : ℚ) ^ ((p.bits : Int) - 1) ≤ m := by
    obtain ⟨k, hk⟩ : ∃ k, p.bits = k + 1 := ⟨p.bits - 1, (Nat.sub_one_add_one hp.bits.ne').symm⟩
    rw [hk] at hm ⊢
    rw [Nat.add_sub_cancel] at hm
    rw [Nat.cast_add_one, add_sub_cancel_right, zpow_natCast]
    exact_mod_cast hm
  have hlast : (2 : ℚ) ^ (q - 1) ≤ m * 2 ^ q * 2 ^ (-p.bits : Int) := by
    calc (2 : ℚ) ^ (q - 1) = 2 ^ ((p.bits : Int) - 1) * 2 ^ q * 2 ^ (-p.bits : Int) := by
          rw [← zpow_add₀ two_ne_zero, ← zpow_add₀ two_ne_zero]
          congr 1
          omega
      _ ≤ m * 2 ^ q * 2 ^ (-p.bits : Int) := by gcongr
  linarith

end Nearest

end Precision

/-! ## Numbers -/

/-- A number of the format, if it is finite. -/
def Binary.Fits (p : Precision) : Binary → Prop
  | .finite _ m q => m < 2 ^ p.bits ∧ p.least ≤ q ∧ q ≤ p.greatest
  | .infinite _ => True

theorem Precision.fits_round {p : Precision} (hp : p.IsFormat) (negative : Bool) (a : Nat) {b : Nat} (hb : 0 < b) :
    (p.round negative a b).Fits p := by
  cases h : p.round negative a b with
  | finite s m q =>
    obtain ⟨hnearest, hq⟩ := nearest_of_round hp hb h
    exact ⟨hnearest.bits, hnearest.least, hq⟩
  | infinite s => trivial

/-- A number with its exponent, as the fraction that it is rounded from. -/
theorem cast_scaled (m : Nat) (q : Int) :
    ((m * Nat.pow 2 q.toNat : Nat) : ℚ) / (Nat.pow 2 (-q).toNat : Nat) = m * 2 ^ q := by
  have h := scaled_div m 1 (-q)
  unfold scaled at h
  rw [neg_neg, one_mul, Nat.cast_one, div_one, zpow_neg, div_inv_eq_mul] at h
  exact h

/-- What is written of numbers of single precision stays below this: a quarter of a unit less than what is rounded to an
    infinite one. -/
def singleBound : ℚ := (2 ^ 24 - 3 / 4) * 2 ^ 104

theorem isFormat_single : Precision.single.IsFormat := ⟨by decide, by decide⟩

theorem isFormat_double : Precision.double.IsFormat := ⟨by decide, by decide⟩

end ClusterPanel.Number
