import Mathlib.Algebra.Ring.Int.Defs
import Mathlib.Algebra.Ring.Nat
import RemotePad.Rounding

/-!
# Rounded quotients in order

For a positive divisor the rounded quotient keeps the order of its dividends and leaves exact
quotients as they are.

* `divNearest_neg`: rounding does not care for the sign.
* `divNearest_mono` and `divNearest_mul_self`: order is kept, multiples are divided exactly.
* `divNearest_mul_lt`: shares of at least one step are kept apart.
* `Toward`: one meets two numbers in turn on the way between two others, whichever of these is
  the greater one.  `share_toward` and `share_along`: so do the rounded parts of a span.
* `interpolate_exactly`: parts of the way between two words stay inside all words.
-/

namespace RemotePad

/-! ## Words -/

theorem toInt_clamp32_of_mem {n : Int} (hlo : least32 ≤ n) (hhi : n ≤ greatest32) :
    (clamp32 n).toInt = n := by
  rw [toInt_clamp32]
  omega

theorem toInt_satSub32 (a b : Int32) :
    (satSub32 a b).toInt = max least32 (min (a.toInt - b.toInt) greatest32) :=
  toInt_clamp32 _

/-- Saturated distances from one word keep the order. -/
theorem satSub32_mono {a a' : Int32} (b : Int32) (h : a.toInt ≤ a'.toInt) :
    (satSub32 a b).toInt ≤ (satSub32 a' b).toInt := by
  rw [toInt_satSub32, toInt_satSub32]
  omega

/-! ## Rounded quotients -/

theorem divNearest_of_pos {p c : Int} (hc : 0 < c) :
    divNearest p c = (paddedDividend p c).tdiv c :=
  if_neg (by omega)

/-- A negative divisor hands its sign to the dividend. -/
theorem divNearest_of_neg {p c : Int} (hc : c < 0) : divNearest p c = divNearest (-p) (-c) := by
  rw [divNearest, if_pos hc, divNearest_of_pos (by omega)]

theorem divNearest_of_nonneg {p c : Int} (hp : 0 ≤ p) (hc : 0 < c) :
    divNearest p c = (p + c / 2) / c := by
  have hpadded : paddedDividend p c = p + c / 2 := if_neg (by omega)
  rw [divNearest_of_pos hc, hpadded]
  exact Int.tdiv_eq_ediv_of_nonneg (by omega)

/-- Half a divisor is less than the divisor. -/
theorem divNearest_zero {c : Int} (hc : 0 < c) : divNearest 0 c = 0 := by
  rw [divNearest_of_nonneg (Int.le_refl 0) hc]
  exact Int.ediv_eq_zero_of_lt (by omega) (by omega)

/-- Rounding away from zero does not care for the sign. -/
theorem divNearest_neg (p : Int) {c : Int} (hc : 0 < c) :
    divNearest (-p) c = -divNearest p c := by
  by_cases hp : p = 0
  · subst hp
    rw [Int.neg_zero, divNearest_zero hc, Int.neg_zero]
  · have hpadded : paddedDividend (-p) c = -paddedDividend p c := by
      unfold paddedDividend
      split <;> split <;> omega
    rw [divNearest_of_pos hc, divNearest_of_pos hc, hpadded, Int.neg_tdiv]

theorem divNearest_nonneg {p c : Int} (hp : 0 ≤ p) (hc : 0 < c) : 0 ≤ divNearest p c := by
  rw [divNearest_of_nonneg hp hc]
  exact Int.ediv_nonneg (by omega) (by omega)

theorem divNearest_mono {p q c : Int} (h : p ≤ q) (hc : 0 < c) :
    divNearest p c ≤ divNearest q c := by
  have nonneg : ∀ {p q : Int}, 0 ≤ p → p ≤ q → divNearest p c ≤ divNearest q c := by
    intro p q hp hpq
    rw [divNearest_of_nonneg hp hc, divNearest_of_nonneg (Int.le_trans hp hpq) hc]
    exact Int.ediv_le_ediv hc (by omega)
  rcases Int.le_total 0 p with hp | hp
  · exact nonneg hp h
  · -- a dividend below zero is the mirror image of one above
    have hmirror : divNearest p c = -divNearest (-p) c := by
      rw [divNearest_neg p hc, Int.neg_neg]
    rcases Int.le_total 0 q with hq | hq
    · have hpositive := divNearest_nonneg hq hc
      have hnegative := divNearest_nonneg (Int.neg_nonneg_of_nonpos hp) hc
      omega
    · have hmirrored := nonneg (Int.neg_nonneg_of_nonpos hq) (Int.neg_le_neg h)
      rw [divNearest_neg q hc] at hmirrored
      omega

/-- An exact quotient stays as it is. -/
theorem divNearest_mul_self (n : Int) {c : Int} (hc : 0 < c) : divNearest (n * c) c = n := by
  have nonneg : ∀ {n : Int}, 0 ≤ n → divNearest (n * c) c = n := by
    intro n hn
    rw [divNearest_of_nonneg (Int.mul_nonneg hn (by omega)) hc, Int.add_comm,
      Int.add_mul_ediv_right _ _ (by omega), Int.ediv_eq_zero_of_lt (by omega) (by omega),
      Int.zero_add]
  rcases Int.le_total 0 n with hn | hn
  · exact nonneg hn
  · have hmirrored := nonneg (Int.neg_nonneg_of_nonpos hn)
    rw [Int.neg_mul, divNearest_neg _ hc] at hmirrored
    omega

/-- So it does whatever the sign of the divisor. -/
theorem divNearest_mul_cancel (n : Int) {c : Int} (hc : c ≠ 0) : divNearest (n * c) c = n := by
  rcases Int.lt_or_gt_of_ne hc with hneg | hpos
  · rw [divNearest_of_neg hneg, ← Int.mul_neg, divNearest_mul_self n (by omega)]
  · exact divNearest_mul_self n hpos

/-- With at least one whole step to each share, different numbers of shares come to different
numbers of steps. -/
theorem divNearest_mul_lt {k k' s d : Int} (hd : 0 < d) (hs : d ≤ s) (hk : 0 ≤ k) (h : k < k') :
    divNearest (k * s) d < divNearest (k' * s) d := by
  have hproduct : 0 ≤ k * s := Int.mul_nonneg hk (by omega)
  have hnext : divNearest (k * s + d) d = divNearest (k * s) d + 1 := by
    rw [divNearest_of_nonneg (by omega) hd, divNearest_of_nonneg hproduct hd, Int.add_right_comm,
      Int.add_ediv_of_dvd_right (Int.dvd_refl d), Int.ediv_self (by omega)]
  have hshare : k * s + d ≤ k' * s := by
    calc k * s + d ≤ k * s + s := by omega
      _ = (k + 1) * s := by rw [Int.add_mul, Int.one_mul]
      _ ≤ k' * s := Int.mul_le_mul_of_nonneg_right h (by omega)
  calc divNearest (k * s) d < divNearest (k * s) d + 1 := Int.lt_add_one_of_le (Int.le_refl _)
    _ = divNearest (k * s + d) d := hnext.symm
    _ ≤ divNearest (k' * s) d := divNearest_mono hshare hd

/-- A rounded half is at most one half away from the exact one. -/
theorem divNearest_two (p : Int) : p - 1 ≤ 2 * divNearest p 2 ∧ 2 * divNearest p 2 ≤ p + 1 := by
  rcases Int.le_total 0 p with hp | hp
  · rw [divNearest_of_nonneg hp (by decide)]
    omega
  · have hmirror := divNearest_neg p (c := 2) (by decide)
    rw [divNearest_of_nonneg (by omega) (by decide)] at hmirror
    omega

/-! ## On the way from one number to another -/

/-- On the way from `a` to `b` one meets `x` and then `y`.  It may go up or down. -/
def Toward (a b x y : Int) : Prop :=
  (a ≤ x ∧ x ≤ y ∧ y ≤ b) ∨ (b ≤ y ∧ y ≤ x ∧ x ≤ a)

/-- The rounded parts of a span are met in the order of their shares. -/
theorem share_toward (span : Int) {d k k' : Int} (hd : 0 < d) (hk : 0 ≤ k) (hkk' : k ≤ k')
    (hk' : k' ≤ d) :
    Toward 0 span (divNearest (k * span) d) (divNearest (k' * span) d) := by
  rcases Int.le_total 0 span with hs | hs
  · refine Or.inl ⟨divNearest_nonneg (Int.mul_nonneg hk hs) hd,
      divNearest_mono (Int.mul_le_mul_of_nonneg_right hkk' hs) hd, ?_⟩
    calc divNearest (k' * span) d ≤ divNearest (d * span) d :=
          divNearest_mono (Int.mul_le_mul_of_nonneg_right hk' hs) hd
      _ = span := by rw [Int.mul_comm, divNearest_mul_self span hd]
  · refine Or.inr ⟨?_, divNearest_mono (Int.mul_le_mul_of_nonpos_right hkk' hs) hd, ?_⟩
    · calc span = divNearest (d * span) d := by rw [Int.mul_comm, divNearest_mul_self span hd]
        _ ≤ divNearest (k' * span) d :=
          divNearest_mono (Int.mul_le_mul_of_nonpos_right hk' hs) hd
    · calc divNearest (k * span) d ≤ divNearest (0 * span) d :=
          divNearest_mono (Int.mul_le_mul_of_nonpos_right hk hs) hd
        _ = 0 := by rw [Int.zero_mul, divNearest_zero hd]

/-- The same of shares of a whole that may be negative itself. -/
theorem share_along (span : Int) {d k k' : Int} (hd : d ≠ 0) (h : Toward 0 d k k') :
    Toward 0 span (divNearest (k * span) d) (divNearest (k' * span) d) := by
  unfold Toward at h
  rcases Int.lt_or_gt_of_ne hd with hneg | hpos
  · rw [divNearest_of_neg hneg, divNearest_of_neg hneg, ← Int.neg_mul, ← Int.neg_mul]
    exact share_toward span (by omega) (by omega) (by omega) (by omega)
  · exact share_toward span hpos (by omega) (by omega) (by omega)

/-- A rounded part of the way from one word to another needs no word held: neither the part nor
the place that it leads to. -/
theorem interpolate_exactly (a b : Int32) {d k : Int} (hd : d ≠ 0) (h : Toward 0 d k k) :
    mulDivSpan k (b.toInt - a.toInt) d = divNearest (k * (b.toInt - a.toInt)) d ∧
      (clamp32 (a.toInt + mulDivSpan k (b.toInt - a.toInt) d)).toInt =
        a.toInt + divNearest (k * (b.toInt - a.toInt)) d := by
  have hshare := share_along (b.toInt - a.toInt) hd h
  have ha := toInt_mem32 a
  have hb := toInt_mem32 b
  unfold Toward at hshare
  unfold least32 greatest32 at ha hb
  have hspan : mulDivSpan k (b.toInt - a.toInt) d = divNearest (k * (b.toInt - a.toInt)) d := by
    have hclamp : clamp64 (divNearest (k * (b.toInt - a.toInt)) d) =
        divNearest (k * (b.toInt - a.toInt)) d := by
      unfold clamp64
      omega
    exact (if_neg hd).trans hclamp
  refine ⟨hspan, ?_⟩
  rw [hspan]
  exact toInt_clamp32_of_mem (by unfold least32; omega) (by unfold greatest32; omega)

end RemotePad
