import RemotePad.Proofs.Calibration.Checked
import RemotePad.Proofs.Calibration.Exact

/-!
# The nearest integer

Which integer a rounded quotient is can be said without any arithmetic: none is nearer to the exact
quotient, and of two that are equally near it is the one farther from zero.

* `NearestAway` says this.  One integer has the property and only one, and it is the rounded number
  (`nearestAway_iff`).
* `mulDiv_eq_some_iff`, `mulDiv_eq_none_iff`, `mulDivSpan_eq_held`: the rounded quotients of words
  and of spans, in terms of the rounded number.
* `rounded_quotients_exact`: both are the nearest integer as far as their results hold it, and need
  no wider words on the way.
-/

namespace RemotePad

/-- No integer is nearer to `q` than `n`, and none that is as near is farther from zero. -/
structure NearestAway (q : ℚ) (n : ℤ) : Prop where
  nearest : ∀ m : ℤ, |q - n| ≤ |q - m|
  away : ∀ m : ℤ, |q - m| = |q - n| → |m| ≤ |n|

/-- An integer at most one half away is no farther from zero than the rounded number. -/
theorem abs_le_abs_roundAway {q : ℚ} {m : ℤ} (h : |q - m| ≤ 1 / 2) : |m| ≤ |roundAway q| := by
  have nonneg : ∀ {q : ℚ} {m : ℤ}, 0 ≤ q → |q - m| ≤ 1 / 2 → |m| ≤ |roundAway q| := by
    intro q m hq h
    obtain ⟨hlo, hhi⟩ := abs_le.mp h
    have hm : -1 < m := by
      have hm' : (-1 : ℚ) < m := by linarith
      exact_mod_cast hm'
    have hround : m ≤ roundAway q := by
      rw [roundAway_of_nonneg hq, Int.le_floor]
      linarith
    rw [abs_of_nonneg (by omega), abs_of_nonneg (by omega)]
    exact hround
  rcases le_total 0 q with hq | hq
  · exact nonneg hq h
  · have hmirror : |(-q) - ((-m : ℤ) : ℚ)| ≤ 1 / 2 := by
      rw [Int.cast_neg, neg_sub_neg, abs_sub_comm]
      exact h
    have hnonneg := nonneg (neg_nonneg.mpr hq) hmirror
    rwa [roundAway_neg, abs_neg, abs_neg] at hnonneg

theorem nearestAway_roundAway (q : ℚ) : NearestAway q (roundAway q) where
  nearest := by
    intro m
    have hround := abs_roundAway_sub_le q
    rw [abs_sub_comm] at hround
    rcases lt_or_ge |q - m| (1 / 2) with hm | hm
    · rw [roundAway_eq_of_abs_sub_lt hm]
    · exact hround.trans hm
  away := by
    intro m hm
    apply abs_le_abs_roundAway
    rw [hm, abs_sub_comm]
    exact abs_roundAway_sub_le q

/-- Equally near and equally far from zero are only equal integers. -/
theorem NearestAway.unique {q : ℚ} {n m : ℤ} (hn : NearestAway q n) (hm : NearestAway q m) :
    n = m := by
  have hnear : |q - n| = |q - m| := le_antisymm (hn.nearest m) (hm.nearest n)
  have hfar : |n| = |m| := le_antisymm (hm.away n hnear) (hn.away m hnear.symm)
  rcases abs_eq_abs.mp hnear with hsame | hmirror
  · have hcast : (n : ℚ) = m := sub_right_injective hsame
    exact_mod_cast hcast
  · rcases abs_eq_abs.mp hfar with heq | hopposite
    · exact heq
    · -- `q` is in the middle of an integer and its opposite, and zero is nearer unless it is both
      have hq : q = 0 := by
        rw [hopposite] at hmirror
        push_cast at hmirror
        linarith
      subst hq
      have hzero : n = 0 := by simpa using hn.nearest 0
      omega

theorem nearestAway_iff {q : ℚ} {n : ℤ} : NearestAway q n ↔ n = roundAway q := by
  constructor
  · intro h
    exact h.unique (nearestAway_roundAway q)
  · rintro rfl
    exact nearestAway_roundAway q

/-! ## Words and spans -/

theorem mulDiv_zero (a b : Int32) : mulDiv a b 0 = none := if_pos rfl

theorem mulDivSpan_zero (a b : Int) : mulDivSpan a b 0 = 0 := if_pos rfl

/-- The quotient by a word that is not zero is the rounded number, if that is a word. -/
theorem mulDiv_eq_some_iff {a b c : Int32} (hc : c ≠ 0) (v : Int32) :
    mulDiv a b c = some v ↔ v.toInt = roundAway (a.toInt * b.toInt / c.toInt) := by
  rw [mulDiv, if_neg hc, narrow32?_eq_some_iff, divNearest_eq_roundAway, Int.cast_mul]

theorem narrow32?_eq_none_iff {n : Int} :
    narrow32? n = none ↔ n < Int32.minValue.toInt ∨ Int32.maxValue.toInt < n := by
  have hmin : Int32.minValue.toInt = least32 := rfl
  have hmax : Int32.maxValue.toInt = greatest32 := rfl
  rw [hmin, hmax]
  unfold narrow32?
  split
  · next hfits =>
    simp only [reduceCtorEq, false_iff]
    omega
  · next hbeyond =>
    simp only [true_iff]
    omega

theorem mulDiv_eq_none_iff {a b c : Int32} (hc : c ≠ 0) :
    mulDiv a b c = none ↔
      roundAway (a.toInt * b.toInt / c.toInt) < Int32.minValue.toInt ∨
        Int32.maxValue.toInt < roundAway (a.toInt * b.toInt / c.toInt) := by
  rw [mulDiv, if_neg hc, narrow32?_eq_none_iff, divNearest_eq_roundAway, Int.cast_mul]

/-- The quotient by a span that is not zero is the rounded number, held in 64 bits. -/
theorem mulDivSpan_eq_held (a b : Int) {c : Int} (hc : c ≠ 0) :
    mulDivSpan a b c =
      max Int64.minValue.toInt (min (roundAway (a * b / c)) Int64.maxValue.toInt) := by
  rw [mulDivSpan, if_neg hc, divNearest_eq_roundAway, Int.cast_mul]
  rfl

/-- Where the quotient of words is a word, it is also the quotient of the spans: the bounds of 64
bits are wider. -/
theorem mulDivSpan_of_mulDiv {a b c v : Int32} (h : mulDiv a b c = some v) :
    mulDivSpan a.toInt b.toInt c.toInt = v.toInt := by
  have hc : c ≠ 0 := by
    rintro rfl
    rw [mulDiv_zero] at h
    cases h
  have hc' : c.toInt ≠ 0 := fun h => hc (Int32.toInt_inj.mp h)
  have hmin : Int64.minValue.toInt = -9223372036854775808 := rfl
  have hmax : Int64.maxValue.toInt = 9223372036854775807 := rfl
  have hword := toInt_mem32 v
  unfold least32 greatest32 at hword
  rw [mulDivSpan_eq_held _ _ hc', ← (mulDiv_eq_some_iff hc v).mp h, hmin, hmax]
  omega

theorem natAbs_toInt64_le (a : Int64) : a.toInt.natAbs ≤ 2 ^ 63 := by
  have hlo := a.le_toInt
  have hhi := a.toInt_lt
  omega

/-- Both quotients are exact.

* Of words: no step on the way leaves 64 bits.  By zero there is no quotient.  By another word,
  one integer and only one is nearest to the exact quotient, a half going away from zero; it is the
  result if it is a word, and otherwise there is none.
* Of spans of 64 bits: no step on the way leaves 128 bits.  By zero the quotient is zero.  By
  another span it is the nearest integer, held in 64 bits.
* Where words have a quotient, they have the same one as spans. -/
theorem rounded_quotients_exact :
    (∀ a b c : Int32,
      checkedMulDiv? a b c = some (mulDiv a b c) ∧
      (c = 0 → mulDiv a b c = none) ∧
      (c ≠ 0 → ∃ n : ℤ, (∀ m, NearestAway (a.toInt * b.toInt / c.toInt) m ↔ m = n) ∧
        (∀ v, mulDiv a b c = some v ↔ v.toInt = n) ∧
        (mulDiv a b c = none ↔ n < Int32.minValue.toInt ∨ Int32.maxValue.toInt < n))) ∧
    (∀ a b c : Int64,
      checkedSpan? a.toInt b.toInt c.toInt = some (mulDivSpan a.toInt b.toInt c.toInt) ∧
      (c = 0 → mulDivSpan a.toInt b.toInt c.toInt = 0) ∧
      (c ≠ 0 → ∃ n : ℤ, (∀ m, NearestAway (a.toInt * b.toInt / c.toInt) m ↔ m = n) ∧
        mulDivSpan a.toInt b.toInt c.toInt =
          max Int64.minValue.toInt (min n Int64.maxValue.toInt))) ∧
    ∀ a b c v : Int32, mulDiv a b c = some v → mulDivSpan a.toInt b.toInt c.toInt = v.toInt := by
  refine ⟨?words, ?spans, ?agree⟩
  case words =>
    intro a b c
    refine ⟨checkedMulDiv?_eq a b c, ?_, ?_⟩
    · rintro rfl
      exact mulDiv_zero a b
    · intro hc
      exact ⟨_, fun m => nearestAway_iff, mulDiv_eq_some_iff hc, mulDiv_eq_none_iff hc⟩
  case spans =>
    intro a b c
    refine ⟨?_, ?_, ?_⟩
    · exact checkedSpan?_eq (natAbs_toInt64_le a) (natAbs_toInt64_le b) (natAbs_toInt64_le c)
    · rintro rfl
      exact mulDivSpan_zero _ _
    · intro hc
      have hc' : c.toInt ≠ 0 := fun h => hc (Int64.toInt_inj.mp h)
      exact ⟨_, fun m => nearestAway_iff, mulDivSpan_eq_held _ _ hc'⟩
  case agree =>
    intro a b c v h
    exact mulDivSpan_of_mulDiv h

/-- One half below zero, by the least word as the divisor. -/
theorem rounded_quotients_exact_least :
    let a : Int32 := 1073741824
    let c : Int32 := -2147483648
    c ≠ 0 ∧ mulDiv a 1 c = some (-1) ∧
      NearestAway (a.toInt * (1 : Int32).toInt / c.toInt) (-1) ∧
      mulDivSpan a.toInt (1 : Int32).toInt c.toInt = (-1 : Int32).toInt := by
  intro a c
  have hc : c ≠ 0 := by decide
  have hhalf : mulDiv a 1 c = some (-1) := by decide
  obtain ⟨words, -, agree⟩ := rounded_quotients_exact
  obtain ⟨-, -, hquotient⟩ := words a 1 c
  obtain ⟨n, hnearest, hsome, -⟩ := hquotient hc
  refine ⟨hc, hhalf, (hnearest _).mpr ?_, agree a 1 c (-1) hhalf⟩
  exact (hsome _).mp hhalf

/-- A product that 64 bits with a sign do not hold. -/
example : mulDivSpan 4294967295 4294967295 1 = 9223372036854775807 := by decide

end RemotePad
