import LogView.Number.Binary64
import Mathlib.Tactic.Ring
import Mathlib.Tactic.SplitIfs

/-!
# Whole numbers as binary values

A whole number of at most 53 bits is a binary value itself.  A longer one is rounded to as many
bits, and has no value if it would be `2 ^ 1024` after that.  Rounding brings no number from
`2 ^ 53` on below it.
-/

namespace LogView
namespace Binary64

/-- The least whole number that is rounded beyond the range: `2 ^ 1024` less `2 ^ 970`. -/
def leastBeyond : Nat := (2 ^ 54 - 1) * 2 ^ 970

theorem leastBeyond_bounds :
    2 ^ (53 + 970) ≤ leastBeyond ∧ leastBeyond ≤ 2 ^ (54 + 970) := by
  rw [pow_add, pow_add, leastBeyond]
  exact ⟨Nat.mul_le_mul_right _ (by decide), Nat.mul_le_mul_right _ (by decide)⟩

theorem two_pow_le_leastBeyond : 2 ^ 53 ≤ leastBeyond := by
  have wide (power : Nat) : 2 ^ 53 ≤ 2 ^ (53 + power) :=
    Nat.pow_le_pow_right two_pos (Nat.le_add_right 53 power)
  exact Nat.le_trans (wide 970) leastBeyond_bounds.1

theorem scale_natCast (num den power : Nat) : scale num den power = (num * 2 ^ power, den) := by
  simp [scale, Nat.shiftLeft_eq]

theorem scale_neg_natCast (num den power : Nat) :
    scale num den (-(power : Int)) = (num, den * 2 ^ power) := by
  cases power with
  | zero => simp [scale]
  | succ power =>
    have below : ¬ (0 : Int) ≤ -((power + 1 : Nat) : Int) := by omega
    rw [scale, if_neg below, neg_neg, Int.toNat_natCast, Nat.shiftLeft_eq]

theorem floor_natCast (mantissa power : Nat) :
    floor false ⟨mantissa, power⟩ = mantissa * 2 ^ power := by
  simp [floor, ratio, scale_natCast]

theorem floor_neg_natCast (mantissa power : Nat) :
    floor false ⟨mantissa, -(power : Int)⟩ = mantissa / 2 ^ power := by
  simp [floor, ratio, scale_neg_natCast]

theorem divideEven_one (n : Nat) : divideEven n 1 = n := by
  simp [divideEven, Nat.mod_one]

theorem divideEven_bounds (num den : Nat) :
    num / den ≤ divideEven num den ∧ divideEven num den ≤ num / den + 1 := by
  unfold divideEven
  dsimp only
  split <;> omega

theorem divideEven_of_odd {num den : Nat} (odd : num / den % 2 = 1) :
    divideEven num den = if 2 * (num % den) < den then num / den else num / den + 1 := by
  have uneven : ¬ num / den % 2 = 0 := by omega
  simp [divideEven, uneven]

theorem logRatio_one {n : Nat} (nonzero : n ≠ 0) : logRatio n 1 = n.log2 := by
  have low := Nat.log2_self_le nonzero
  have one : (1 : Nat).log2 = 0 := by decide
  unfold logRatio
  simp only [one, Nat.cast_zero, sub_zero, scale_neg_natCast, one_mul]
  exact if_neg (Nat.not_lt.mpr low)

/-- What was rounded to 53 bits, as a value; rounding may have come to one bit more. -/
def ofRounded (rounded : Nat) (exponent : Int) : Binary64 :=
  if rounded = 2 * leastLong then ⟨leastLong, exponent + 1⟩ else ⟨rounded, exponent⟩

theorem floor_ofRounded (rounded power : Nat) :
    floor false (ofRounded rounded power) = rounded * 2 ^ power := by
  unfold ofRounded
  split_ifs with carried
  · have next : ((power : Int) + 1) = ((power + 1 : Nat) : Int) := by simp
    rw [next, floor_natCast, carried, pow_succ]
    push_cast
    ring
  · exact floor_natCast rounded power

theorem ofRatio?_one {n : Nat} (nonzero : n ≠ 0) :
    ofRatio? n 1 =
      let exponent : Int := n.log2 - 52
      let (a, b) := scale n 1 (-exponent)
      let value := ofRounded (divideEven a b) exponent
      if value.exponent ≤ 971 then some value else none := by
  have exponent : max (logRatio n 1 - 52) (-1074) = (n.log2 : Int) - 52 := by
    rw [logRatio_one nonzero]
    omega
  unfold ofRatio?
  rw [if_neg nonzero, exponent]
  rfl

theorem ofRatio?_of_short {n : Nat} (nonzero : n ≠ 0) (short : n < 2 ^ 52) :
    ∃ value, ofRatio? n 1 = some value ∧ value.floor false = n := by
  have bits : n.log2 < 52 := (Nat.log2_lt nonzero).mpr short
  obtain ⟨power, sum⟩ := Nat.exists_eq_add_of_lt bits
  have exponent : (n.log2 : Int) - 52 = -((power + 1 : Nat) : Int) := by omega
  have bound : n * 2 ^ (power + 1) < 2 ^ 53 := by
    calc n * 2 ^ (power + 1)
        < 2 ^ (n.log2 + 1) * 2 ^ (power + 1) := by
          apply Nat.mul_lt_mul_of_pos_right Nat.lt_log2_self
          exact Nat.two_pow_pos (power + 1)
      _ = 2 ^ 53 := by
          rw [← pow_add]
          congr 1
          omega
  have uncarried : n * 2 ^ (power + 1) ≠ 2 * leastLong := by
    unfold leastLong
    omega
  refine ⟨⟨n * 2 ^ (power + 1), -((power + 1 : Nat) : Int)⟩, ?_, ?_⟩
  · rw [ofRatio?_one nonzero, exponent]
    dsimp only
    rw [neg_neg, scale_natCast]
    dsimp only
    rw [divideEven_one, ofRounded, if_neg uncarried, if_pos (by dsimp only; omega)]
  · rw [floor_neg_natCast]
    push_cast
    exact Int.mul_ediv_cancel _ (pow_ne_zero _ two_ne_zero)

section Long

variable {n power : Nat}

theorem ne_zero_of_bits (bits : n.log2 = 52 + power) : n ≠ 0 := by
  rintro rfl
  rw [Nat.log2_zero] at bits
  omega

/-- The first 53 bits of a number, if `power` more bits follow them. -/
theorem quotient_bounds (bits : n.log2 = 52 + power) :
    2 ^ 52 ≤ n / 2 ^ power ∧ n / 2 ^ power < 2 ^ 53 := by
  have nonzero := ne_zero_of_bits bits
  have positive := Nat.two_pow_pos power
  constructor
  · rw [Nat.le_div_iff_mul_le positive, ← pow_add, ← bits]
    exact Nat.log2_self_le nonzero
  · rw [Nat.div_lt_iff_lt_mul positive, ← pow_add]
    have above : n < 2 ^ (n.log2 + 1) := Nat.lt_log2_self
    have width : n.log2 + 1 = 53 + power := by omega
    rwa [width] at above

theorem ofRatio?_of_long (bits : n.log2 = 52 + power) :
    ofRatio? n 1 =
      let value := ofRounded (divideEven n (2 ^ power)) power
      if value.exponent ≤ 971 then some value else none := by
  have nonzero := ne_zero_of_bits bits
  have exponent : (n.log2 : Int) - 52 = power := by omega
  rw [ofRatio?_one nonzero, exponent]
  dsimp only
  rw [scale_neg_natCast]
  dsimp only
  rw [one_mul]

theorem divideEven_eq_carried_iff (bits : n.log2 = 52 + (power + 1)) :
    divideEven n (2 ^ (power + 1)) = 2 * leastLong ↔ (2 ^ 54 - 1) * 2 ^ power ≤ n := by
  obtain ⟨-, below⟩ := quotient_bounds bits
  obtain ⟨-, upper⟩ := divideEven_bounds n (2 ^ (power + 1))
  have divided := Nat.div_add_mod n (2 ^ (power + 1))
  have rest := Nat.mod_lt n (Nat.two_pow_pos (power + 1))
  have double : 2 ^ (power + 1) = 2 * 2 ^ power := pow_succ' 2 power
  unfold leastLong
  rcases Nat.lt_or_ge (n / 2 ^ (power + 1)) (2 ^ 53 - 1) with small | large
  · have product : 2 ^ (power + 1) * (n / 2 ^ (power + 1)) ≤ 2 ^ (power + 1) * (2 ^ 53 - 2) :=
      Nat.mul_le_mul_left _ (by omega)
    omega
  · have quotient : n / 2 ^ (power + 1) = 2 ^ 53 - 1 := by omega
    have odd : n / 2 ^ (power + 1) % 2 = 1 := by omega
    rw [quotient] at divided
    rw [divideEven_of_odd odd, quotient]
    split_ifs with half <;> omega

theorem exponent_ofRounded_le_iff (rounded : Nat) :
    (ofRounded rounded power).exponent ≤ 971 ↔
      power ≤ 970 ∨ power = 971 ∧ rounded ≠ 2 * leastLong := by
  unfold ofRounded
  split_ifs with carried
  · dsimp only
    omega
  · dsimp only
    omega

theorem exponent_le_iff (bits : n.log2 = 52 + power) :
    (ofRounded (divideEven n (2 ^ power)) power).exponent ≤ 971 ↔ n < leastBeyond := by
  obtain ⟨low, high⟩ := leastBeyond_bounds
  rw [exponent_ofRounded_le_iff]
  rcases Nat.lt_trichotomy power (970 + 1) with small | rfl | large
  · have below : n < 2 ^ (53 + 970) := by
      rw [← Nat.log2_lt (ne_zero_of_bits bits)]
      omega
    exact iff_of_true (.inl (by omega)) (Nat.lt_of_lt_of_le below low)
  · rw [leastBeyond, ← Nat.not_le, ← divideEven_eq_carried_iff bits]
    exact ⟨fun carried => (carried.resolve_left (by omega)).2, fun exact => .inr ⟨rfl, exact⟩⟩
  · have above : 2 ^ (54 + 970) ≤ n := by
      rw [← Nat.le_log2 (ne_zero_of_bits bits)]
      omega
    exact iff_of_false (by omega) (Nat.not_lt.mpr (Nat.le_trans high above))

/-- Rounding does not bring a long number below `2 ^ 53`, and keeps one of just 53 bits. -/
theorem min_floor_ofRounded (bits : n.log2 = 52 + power) :
    min (floor false (ofRounded (divideEven n (2 ^ power)) power)) (2 ^ 53) =
      min (n : Int) (2 ^ 53) := by
  rw [floor_ofRounded]
  cases power with
  | zero => simp [divideEven_one]
  | succ power =>
    obtain ⟨full, -⟩ := quotient_bounds bits
    obtain ⟨rounded, -⟩ := divideEven_bounds n (2 ^ (power + 1))
    have double : 2 ≤ 2 ^ (power + 1) := by
      rw [pow_succ']
      exact Nat.le_mul_of_pos_right 2 (Nat.two_pow_pos power)
    have above : 2 ^ 53 ≤ n := by
      rw [← Nat.le_log2 (ne_zero_of_bits bits)]
      omega
    have kept : 2 ^ 52 * 2 ≤ divideEven n (2 ^ (power + 1)) * 2 ^ (power + 1) :=
      Nat.mul_le_mul (Nat.le_trans full rounded) double
    have kept' : ((2 ^ 52 * 2 : Nat) : Int) ≤
        (divideEven n (2 ^ (power + 1)) : Int) * 2 ^ (power + 1) := by
      exact_mod_cast kept
    omega

end Long

theorem ofRatio?_whole (n : Nat) :
    (n < leastBeyond → ∃ value, ofRatio? n 1 = some value ∧
      min (value.floor false) (2 ^ 53) = min (n : Int) (2 ^ 53)) ∧
      (leastBeyond ≤ n → ofRatio? n 1 = none) := by
  have reach := two_pow_le_leastBeyond
  rcases Nat.eq_zero_or_pos n with rfl | positive
  · exact ⟨fun _ => ⟨zero, rfl, by decide⟩, fun beyond => absurd beyond (by omega)⟩
  · have nonzero : n ≠ 0 := Nat.ne_of_gt positive
    rcases Nat.lt_or_ge n (2 ^ 52) with short | long
    · obtain ⟨value, found, floor⟩ := ofRatio?_of_short nonzero short
      exact ⟨fun _ => ⟨value, found, by rw [floor]⟩, fun beyond => absurd beyond (by omega)⟩
    · obtain ⟨power, bits⟩ := Nat.exists_eq_add_of_le ((Nat.le_log2 nonzero).mpr long)
      have rounded := ofRatio?_of_long bits
      have range := exponent_le_iff bits
      constructor
      · intro inside
        exact ⟨_, rounded.trans (if_pos (range.mpr inside)), min_floor_ofRounded bits⟩
      · intro beyond
        exact rounded.trans (if_neg (mt range.mp (Nat.not_lt.mpr beyond)))

end Binary64
end LogView
