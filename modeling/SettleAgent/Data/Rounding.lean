import SettleAgent.Data.Float64
import Mathlib.Tactic.Linarith
import Mathlib.Tactic.Ring

/-!
# Bounds on rounded numbers

Rounding to 53 bits takes a number neither below a small integer that it has
reached, nor up to `2 ^ 63` from more than half a step below.  So a conversion
of a product to an integer is not too small, as long as the product is in range.
-/

namespace SettleAgent
namespace Float64

/-- The integer part of a number that is not negative. -/
def wholePart (magnitude : Nat) (exponent : Int) : Nat :=
  magnitude * 2 ^ exponent.toNat / 2 ^ (-exponent).toNat

theorem truncate_natCast (magnitude : Nat) (exponent : Int) :
    truncate magnitude exponent = wholePart magnitude exponent := by
  unfold truncate wholePart
  split
  · rename_i whole
    rw [show (-exponent).toNat = 0 by omega]
    simp
  · rename_i fractional
    rw [show exponent.toNat = 0 by omega, Int.natAbs_natCast]
    by_cases zero : magnitude = 0
    · simp [zero]
    · rw [Int.sign_natCast_of_ne_zero zero, one_mul, pow_zero, mul_one]

theorem le_wholePart {least magnitude : Nat} {exponent : Int} :
    least ≤ wholePart magnitude exponent ↔
      least * 2 ^ (-exponent).toNat ≤ magnitude * 2 ^ exponent.toNat :=
  Nat.le_div_iff_mul_le (Nat.two_pow_pos _)

/-- A half that is added adds at most one to the integer part. -/
theorem plusHalf_natCast (magnitude : Nat) (exponent : Int) :
    ∃ sum : Nat, (plusHalf magnitude exponent).1 = sum ∧
      wholePart magnitude exponent ≤
        wholePart sum (plusHalf magnitude exponent).2 ∧
      wholePart sum (plusHalf magnitude exponent).2 ≤
        wholePart magnitude exponent + 1 := by
  unfold plusHalf
  split
  · rename_i whole
    refine ⟨magnitude * 2 ^ (exponent + 1).toNat + 1, by push_cast; rfl, ?_⟩
    rw [show (exponent + 1).toNat = exponent.toNat + 1 by omega]
    simp only [wholePart, show (-exponent).toNat = 0 by omega, pow_succ,
      ← mul_assoc]
    simp
    omega
  · rename_i fractional
    obtain ⟨power, rfl⟩ : ∃ power : Nat, exponent = -1 - power :=
      ⟨(-1 - exponent).toNat, by omega⟩
    refine ⟨magnitude + 2 ^ power, by simp, ?_⟩
    simp only [wholePart, show (-1 - (power : Int)).toNat = 0 by omega,
      show (-(-1 - (power : Int))).toNat = power + 1 by omega, pow_zero,
      mul_one]
    constructor
    · exact Nat.div_le_div_right (Nat.le_add_right _ _)
    · rw [← Nat.add_div_right _ (Nat.two_pow_pos _)]
      apply Nat.div_le_div_right
      rw [pow_succ]
      omega

/-- Rounding goes to a neighbouring integer, and up from the middle at most. -/
theorem roundShift_bounds (magnitude shift : Nat) :
    magnitude / 2 ^ shift ≤ roundShift magnitude shift ∧
      roundShift magnitude shift ≤ magnitude / 2 ^ shift + 1 ∧
      2 * (roundShift magnitude shift * 2 ^ shift) ≤
        2 * magnitude + 2 ^ shift := by
  have split := Nat.div_add_mod' magnitude (2 ^ shift)
  have parity : magnitude / 2 ^ shift % 2 ≤ 1 := by omega
  have product := Nat.mul_le_mul_right (2 ^ shift) parity
  unfold roundShift
  dsimp only
  split_ifs with above tie
  · rw [Nat.add_mul]
    omega
  · rw [Nat.add_mul]
    omega
  · omega

/-- A number is rounded to at most 53 bits.  It stays as it is, or it fills
these bits before the rest is rounded. -/
structure Rounded (magnitude rounded shift : Nat) : Prop where
  short : rounded ≤ 2 ^ 53
  middle : 2 * (rounded * 2 ^ shift) ≤ 2 * magnitude + 2 ^ shift
  kept : rounded = magnitude ∧ shift = 0 ∨
    2 ^ 52 ≤ magnitude / 2 ^ shift ∧ magnitude / 2 ^ shift ≤ rounded

theorem round_natCast (magnitude : Nat) (exponent : Int) :
    ∃ rounded shift : Nat,
      round magnitude exponent = ((rounded : Int), exponent + shift) ∧
        Rounded magnitude rounded shift := by
  obtain ⟨least, most, middle⟩ :=
    roundShift_bounds magnitude (magnitude.size - 53)
  refine ⟨roundShift magnitude (magnitude.size - 53), magnitude.size - 53, ?_,
    ?_, middle, ?_⟩
  · by_cases zero : magnitude = 0
    · subst zero
      rfl
    · simp only [round, Int.natAbs_natCast, Int.sign_natCast_of_ne_zero zero,
        one_mul]
  · have below : magnitude / 2 ^ (magnitude.size - 53) < 2 ^ 53 := by
      rw [Nat.div_lt_iff_lt_mul (Nat.two_pow_pos _), ← pow_add]
      exact Nat.size_le.mp (by omega)
    omega
  · by_cases short : magnitude.size ≤ 53
    · left
      rw [Nat.sub_eq_zero_of_le short]
      simp [roundShift, Nat.mod_one]
    · right
      refine ⟨?_, least⟩
      rw [Nat.le_div_iff_mul_le (Nat.two_pow_pos _), ← pow_add]
      exact Nat.lt_size.mp (by omega)

namespace Rounded

variable {magnitude rounded shift : Nat} {exponent : Int}
  (rounds : Rounded magnitude rounded shift)

include rounds

/-- An integer that is reached is reached after rounding. -/
theorem reaches {least : Nat} (small : least ≤ 2 ^ 52)
    (reached : least ≤ wholePart magnitude exponent) :
    least ≤ wholePart rounded (exponent + shift) := by
  rcases rounds.kept with ⟨rfl, rfl⟩ | ⟨full, below⟩
  · simpa using reached
  rw [le_wholePart] at reached ⊢
  by_cases whole : 0 ≤ exponent + shift
  · rw [show (-(exponent + (shift : Int))).toNat = 0 by omega, pow_zero,
      mul_one]
    exact (small.trans (full.trans below)).trans
      (Nat.le_mul_of_pos_right _ (Nat.two_pow_pos _))
  · rw [show exponent.toNat = 0 by omega, pow_zero, mul_one,
      show (-exponent).toNat = (-(exponent + (shift : Int))).toNat + shift by
        omega, pow_add, ← mul_assoc] at reached
    rw [show (exponent + (shift : Int)).toNat = 0 by omega, pow_zero, mul_one]
    exact ((Nat.le_div_iff_mul_le (Nat.two_pow_pos _)).mpr reached).trans below

/-- A number below the middle of the last step to `2 ^ 63` stays below that
step. -/
theorem stays (inRange : wholePart magnitude exponent < 2 ^ 63 - 512) :
    wholePart rounded (exponent + shift) ≤ 2 ^ 63 - 1024 := by
  have limit : (2 : Nat) ^ 63 - 512 = 9223372036854775296 := rfl
  by_cases low : exponent + shift ≤ 9
  · refine (Nat.div_le_self _ _).trans ((Nat.mul_le_mul rounds.short
      (Nat.pow_le_pow_right two_pos (show _ ≤ 9 by omega))).trans ?_)
    norm_num
  obtain ⟨power, high⟩ : ∃ power : Nat, exponent + shift = 10 + power :=
    ⟨(exponent + shift - 10).toNat, by omega⟩
  have scaled : magnitude * 2 ^ (10 + power) < (2 ^ 63 - 512) * 2 ^ shift := by
    rw [wholePart, Nat.div_lt_iff_lt_mul (Nat.two_pow_pos _)] at inRange
    apply lt_of_mul_lt_mul_right _ (Nat.zero_le (2 ^ (-exponent).toNat))
    rw [mul_assoc, ← pow_add, show 10 + power + (-exponent).toNat =
      exponent.toNat + shift by omega, pow_add, ← mul_assoc,
      mul_right_comm (2 ^ 63 - 512)]
    exact Nat.mul_lt_mul_of_pos_right inRange (Nat.two_pow_pos _)
  rw [high, wholePart, show (-(10 + (power : Int))).toNat = 0 by omega,
    show (10 + (power : Int)).toNat = 10 + power by omega, pow_zero,
    Nat.div_one]
  obtain ⟨_, middle, ⟨rfl, rfl⟩ | ⟨full, below⟩⟩ := rounds
  · rw [pow_add, mul_left_comm] at scaled ⊢
    omega
  -- All bits are used, so that the last one counts for 1024.
  have lowest : power = 0 := by
    by_contra higher
    have step : 2 ^ 11 ≤ 2 ^ (10 + power) :=
      Nat.pow_le_pow_right two_pos (by omega)
    have large : 2 ^ 52 * 2 ^ shift ≤ magnitude :=
      (Nat.le_div_iff_mul_le (Nat.two_pow_pos _)).mp full
    have above := Nat.mul_le_mul large step
    omega
  subst lowest
  have fewer : rounded < 2 ^ 53 := by
    apply lt_of_mul_lt_mul_right _ (Nat.zero_le (2 ^ shift))
    omega
  omega

end Rounded

/-- The conversion of a product in range is not below an integer that the
product has reached. -/
theorem le_timesPlusHalf {x : Float64} {factor least : Nat}
    (positive : 0 < factor) (small : least ≤ 2 ^ 52)
    (reached : x.timesBelow factor least = false)
    (inRange : x.timesBelow factor (2 ^ 63 - 512) = true) :
    least ≤ x.timesPlusHalf factor := by
  simp only [timesBelow, decide_eq_false_iff_not, not_lt,
    decide_eq_true_eq] at reached inRange
  obtain ⟨magnitude, natural⟩ : ∃ magnitude : Nat, x.significand = magnitude := by
    apply Int.eq_ofNat_of_zero_le
    by_contra! negative
    have product := mul_neg_of_neg_of_pos (mul_neg_of_pos_of_neg
      (Int.natCast_pos.mpr positive) negative)
      (pow_pos (two_pos : (0 : Int) < 2) x.exponent.toNat)
    have sum : (0 : Int) ≤ least * 2 ^ (-x.exponent).toNat := by positivity
    omega
  rw [natural] at reached inRange
  have reaches : least ≤ wholePart (factor * magnitude) x.exponent :=
    le_wholePart.mpr (by exact_mod_cast reached)
  have below : wholePart (factor * magnitude) x.exponent < 2 ^ 63 - 512 := by
    rw [wholePart, Nat.div_lt_iff_lt_mul (Nat.two_pow_pos _)]
    rw [show (2 : Int) ^ 63 - 512 = (2 ^ 63 - 512 : Nat) from rfl] at inRange
    exact_mod_cast inRange
  obtain ⟨product, shift, first, rounds⟩ :=
    round_natCast (factor * magnitude) x.exponent
  obtain ⟨sum, second, sumLow, sumHigh⟩ :=
    plusHalf_natCast product (x.exponent + shift)
  obtain ⟨rounded, shift', third, rounds'⟩ :=
    round_natCast sum (plusHalf product (x.exponent + shift)).2
  have low := rounds'.reaches small ((rounds.reaches small reaches).trans sumLow)
  have product_le := rounds.stays below
  have high := rounds'.stays (show _ < 2 ^ 63 - 512 from
    sumHigh.trans_lt (by omega))
  simp only [timesPlusHalf, natural, ← Nat.cast_mul, first, second, third,
    truncate_natCast, clampInt64]
  rw [if_pos ⟨by omega, by omega⟩]
  exact_mod_cast low

end Float64
end SettleAgent
