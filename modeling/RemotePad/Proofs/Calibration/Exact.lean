import Mathlib.Data.Rat.Floor
import Mathlib.Tactic.FieldSimp
import Mathlib.Tactic.Linarith
import RemotePad.Proofs.Calibration.Rounding

/-!
# Rounded quotients against exact ones

The rounded quotient of integers is the exact quotient, a rational number, rounded once.

* `roundAway` rounds a rational number to the nearest integer, a half away from zero.
* `abs_roundAway_sub_le`: what is lost is at most one half.
* `divNearest_eq_roundAway`: the quotient that calibration computes is the exact one, rounded.
* `divNearest_divNearest_mul`: steps that are spread over as many or more are found again.
-/

namespace RemotePad

/-- The integer nearest to a rational number; a half goes away from zero. -/
def roundAway (q : ℚ) : ℤ :=
  if 0 ≤ q then ⌊q + 1 / 2⌋ else -⌊-q + 1 / 2⌋

theorem roundAway_of_nonneg {q : ℚ} (hq : 0 ≤ q) : roundAway q = ⌊q + 1 / 2⌋ := if_pos hq

theorem roundAway_zero : roundAway 0 = 0 := by
  rw [roundAway_of_nonneg le_rfl, Int.floor_eq_iff]
  norm_num

theorem roundAway_neg (q : ℚ) : roundAway (-q) = -roundAway q := by
  rcases lt_trichotomy q 0 with hq | rfl | hq
  · rw [roundAway_of_nonneg (by linarith), roundAway, if_neg (by linarith), neg_neg]
  · rw [neg_zero, roundAway_zero, neg_zero]
  · rw [roundAway, if_neg (by linarith), neg_neg, roundAway_of_nonneg hq.le]

/-- Rounding loses at most one half. -/
theorem abs_roundAway_sub_le (q : ℚ) : |(roundAway q : ℚ) - q| ≤ 1 / 2 := by
  have nonneg : ∀ {q : ℚ}, 0 ≤ q → |(roundAway q : ℚ) - q| ≤ 1 / 2 := by
    intro q hq
    have hle := Int.floor_le (q + 1 / 2)
    have hlt := Int.lt_floor_add_one (q + 1 / 2)
    rw [roundAway_of_nonneg hq, abs_le]
    constructor <;> linarith
  rcases le_total 0 q with hq | hq
  · exact nonneg hq
  · have hmirror := nonneg (neg_nonneg.mpr hq)
    rw [roundAway_neg, Int.cast_neg, neg_sub_neg, abs_sub_comm] at hmirror
    exact hmirror

/-- An integer less than one half away is the rounded number. -/
theorem roundAway_eq_of_abs_sub_lt {q : ℚ} {n : ℤ} (h : |q - n| < 1 / 2) : roundAway q = n := by
  have htotal : |(roundAway q : ℚ) - n| < 1 := by
    calc |(roundAway q : ℚ) - n| ≤ |(roundAway q : ℚ) - q| + |q - n| := abs_sub_le _ _ _
      _ < 1 / 2 + 1 / 2 := add_lt_add_of_le_of_lt (abs_roundAway_sub_le q) h
      _ = 1 := add_halves 1
  have hdistance : |roundAway q - n| < 1 := by exact_mod_cast htotal
  exact sub_eq_zero.mp (Int.abs_lt_one_iff.mp hdistance)

/-! ## Quotients of integers -/

/-- Half a divisor may be added before an integer division or one half after an exact one. -/
theorem floor_div_add_half (p : ℤ) {c : ℤ} (hc : 0 < c) :
    ⌊(p / c + 1 / 2 : ℚ)⌋ = (p + c / 2) / c := by
  have hc' : (0 : ℚ) < c := by exact_mod_cast hc
  have hsum : (p / c + 1 / 2 : ℚ) = (2 * p + c) / (2 * c) := by field_simp
  rw [hsum, Int.floor_eq_iff]
  -- both bounds are bounds on integers once the divisor is multiplied out
  have hle := Int.ediv_mul_le (p + c / 2) hc.ne'
  have hlt := Int.lt_ediv_add_one_mul_self (p + c / 2) hc
  constructor
  · have hlow : (p + c / 2) / c * (2 * c) ≤ 2 * p + c := by
      rw [Int.mul_left_comm]
      omega
    rw [le_div_iff₀ (by linarith)]
    exact_mod_cast hlow
  · have hhigh : 2 * p + c < ((p + c / 2) / c + 1) * (2 * c) := by
      rw [Int.mul_left_comm]
      omega
    rw [div_lt_iff₀ (by linarith)]
    exact_mod_cast hhigh

theorem divNearest_eq_roundAway_of_pos (p : ℤ) {c : ℤ} (hc : 0 < c) :
    divNearest p c = roundAway (p / c) := by
  have hc' : (0 : ℚ) < c := by exact_mod_cast hc
  have nonneg : ∀ {p : ℤ}, 0 ≤ p → divNearest p c = roundAway (p / c) := by
    intro p hp
    have hq : (0 : ℚ) ≤ p / c := div_nonneg (by exact_mod_cast hp) hc'.le
    rw [divNearest_of_nonneg hp hc, roundAway_of_nonneg hq, floor_div_add_half p hc]
  rcases le_total 0 p with hp | hp
  · exact nonneg hp
  · have hmirror := nonneg (neg_nonneg.mpr hp)
    rw [divNearest_neg p hc, Int.cast_neg, neg_div, roundAway_neg] at hmirror
    exact neg_inj.mp hmirror

/-- The rounded quotient of integers is the exact quotient, rounded. -/
theorem divNearest_eq_roundAway (p c : ℤ) : divNearest p c = roundAway (p / c) := by
  rcases lt_trichotomy c 0 with hc | rfl | hc
  · rw [divNearest_of_neg hc, divNearest_eq_roundAway_of_pos _ (by omega), Int.cast_neg, Int.cast_neg,
      neg_div_neg_eq]
  · rw [Int.cast_zero, div_zero, roundAway_zero]
    exact Int.tdiv_zero _
  · exact divNearest_eq_roundAway_of_pos p hc

/-- Spreading `k` of `m` steps over `n` steps, rounded, and gathering them again, rounded, leads
back to `k` if there are at least as many steps to spread over. -/
theorem divNearest_divNearest_mul (k : ℤ) {m n : ℤ} (hm : m ≠ 0) (wide : |m| ≤ |n|) :
    divNearest (divNearest (k * n) m * m) n = k := by
  rcases wide.eq_or_lt with heven | hwider
  · -- with as many steps on both sides nothing is rounded
    rcases abs_eq_abs.mp heven with rfl | rfl
    · rw [divNearest_mul_cancel k hm, divNearest_mul_cancel k hm]
    · have hn : n ≠ 0 := neg_ne_zero.mp hm
      have hmirror : k * n = -k * -n := (neg_mul_neg k n).symm
      rw [hmirror, divNearest_mul_cancel (-k) hm, neg_mul_neg, divNearest_mul_cancel k hn]
  · -- otherwise the first rounding is off by at most one half, and this shrinks on the way back
    have hm' : (m : ℚ) ≠ 0 := Int.cast_ne_zero.mpr hm
    have hn : (0 : ℚ) < |(n : ℚ)| := by exact_mod_cast (abs_nonneg m).trans_lt hwider
    have hn' : (n : ℚ) ≠ 0 := abs_pos.mp hn
    have herror := abs_roundAway_sub_le (k * n / m)
    have hshrinks : |(m : ℚ)| / |(n : ℚ)| < 1 := by
      rw [div_lt_one hn]
      exact_mod_cast hwider
    rw [divNearest_eq_roundAway _ n, divNearest_eq_roundAway _ m]
    apply roundAway_eq_of_abs_sub_lt
    push_cast
    have hback : (roundAway (k * n / m) * m / n : ℚ) - k =
        ((roundAway (k * n / m) : ℚ) - k * n / m) * (m / n) := by
      field_simp
    calc |(roundAway (k * n / m) * m / n : ℚ) - k|
        = |(roundAway (k * n / m) : ℚ) - k * n / m| * (|(m : ℚ)| / |(n : ℚ)|) := by
          rw [hback, abs_mul, abs_div]
      _ ≤ 1 / 2 * (|(m : ℚ)| / |(n : ℚ)|) :=
          mul_le_mul_of_nonneg_right herror (div_nonneg (abs_nonneg _) (abs_nonneg _))
      _ < 1 / 2 * 1 := mul_lt_mul_of_pos_left hshrinks (by norm_num)
      _ = 1 / 2 := mul_one _

end RemotePad
