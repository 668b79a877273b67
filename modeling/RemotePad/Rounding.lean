/-!
# Rounded division and 32-bit words

All calibration arithmetic is integer arithmetic with one rounding rule: a
quotient goes to the nearest integer, and a half goes away from zero.

* `divNearest` is that quotient on `Int`; `paddedDividend` is the dividend it
  hands to truncating division.
* `mulDiv` multiplies and divides 32-bit words and answers `none` when there is
  no quotient or it does not fit.
* `mulDivSpan` does the same over wide spans: no quotient counts as `0`, and a
  quotient beyond 64 bits is held at the nearest 64-bit integer.
* `clamp32` and `satSub32` bring integers back into 32 bits.
-/

namespace RemotePad

/-! ## Words and ranges -/

/-- The least 32-bit integer. -/
def least32 : Int := -2147483648

/-- The greatest 32-bit integer. -/
def greatest32 : Int := 2147483647

/-- A 32-bit word that stands for an integer in range stands for that integer. -/
theorem toInt_ofInt32 {n : Int} (hlo : least32 ≤ n) (hhi : n ≤ greatest32) :
    (Int32.ofInt n).toInt = n := by
  unfold least32 at hlo
  unfold greatest32 at hhi
  exact Int32.toInt_ofInt_of_le (by omega) (by omega)

/-- Every 32-bit word lies between the two bounds. -/
theorem toInt_mem32 (a : Int32) : least32 ≤ a.toInt ∧ a.toInt ≤ greatest32 := by
  have h₁ := a.le_toInt
  have h₂ := a.toInt_lt
  unfold least32 greatest32
  omega

/-- The 32-bit integer equal to `n`, if there is one. -/
def narrow32? (n : Int) : Option Int32 :=
  if least32 ≤ n ∧ n ≤ greatest32 then some (Int32.ofInt n) else none

theorem narrow32?_eq_some_iff {n : Int} {a : Int32} : narrow32? n = some a ↔ a.toInt = n := by
  unfold narrow32?
  split
  · next h =>
    have hn := toInt_ofInt32 h.1 h.2
    constructor
    · intro hs
      cases hs
      exact hn
    · intro hv
      exact congrArg some (Int32.toInt_inj.mp (by rw [hn, hv]))
  · next h =>
    constructor
    · intro hs
      cases hs
    · intro hv
      exact absurd (hv ▸ toInt_mem32 a) h

/-- The 32-bit integer nearest to `n`. -/
def clamp32 (n : Int) : Int32 :=
  Int32.ofInt (max least32 (min n greatest32))

theorem toInt_clamp32 (n : Int) : (clamp32 n).toInt = max least32 (min n greatest32) := by
  unfold clamp32
  apply toInt_ofInt32
  · exact Int.le_max_left _ _
  · unfold least32 greatest32
    omega

/-- The 64-bit integer nearest to `n`, as an integer. -/
def clamp64 (n : Int) : Int :=
  max (-9223372036854775808) (min n 9223372036854775807)

/-- Subtraction held inside 32 bits. -/
def satSub32 (a b : Int32) : Int32 :=
  clamp32 (a.toInt - b.toInt)

/-! ## Rounded quotients -/

/-- The dividend moved half a divisor away from zero, so that truncating division
by the positive `c` rounds to nearest with halves going outward. -/
def paddedDividend (p c : Int) : Int :=
  if p < 0 then p - c / 2 else p + c / 2

/-- The quotient `p / c` rounded to nearest, a half going away from zero.  The
sign of the divisor is moved to the dividend first. -/
def divNearest (p c : Int) : Int :=
  if c < 0 then (paddedDividend (-p) (-c)).tdiv (-c) else (paddedDividend p c).tdiv c

/-- `a * b / c` rounded to nearest; `none` for a zero divisor or a quotient that
is no 32-bit integer. -/
def mulDiv (a b c : Int32) : Option Int32 :=
  if c = 0 then none else narrow32? (divNearest (a.toInt * b.toInt) c.toInt)

/-- `a * b / c` over wide spans with the rounding of `mulDiv`.  A zero divisor
yields `0`, and a quotient beyond 64 bits is held at the bound. -/
def mulDivSpan (a b c : Int) : Int :=
  if c = 0 then 0 else clamp64 (divNearest (a * b) c)

end RemotePad
