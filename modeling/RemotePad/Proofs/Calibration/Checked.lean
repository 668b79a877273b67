import RemotePad.Proofs.Calibration.Centered

/-!
# Calibration in words of fixed width

The calibration once more, step by step in signed words: every sum, product and quotient has
to fit into the word that it is computed in, and no divisor may be zero.

* `fits?` and `quotient?` are such steps; `checkedQuotient?` is the rounded quotient made of
  them, with 64 bits in `checkedMulDiv?` and with 128 bits in `checkedSpan?`.
* `checkedLine?` goes along a straight line in 64 bits; between the ends of the line it can
  (`checkedLine?_eq`).
* `checkedScaleAxis?` is the whole of the centered mapping.  It always comes to an end, and to
  the same one as `scaleAxis` (`checkedScaleAxis?_eq`).
* `scaleAxis_total_bounded_monotone` is all of this about one axis.
-/

namespace RemotePad

/-! ## Steps -/

/-- An integer, if a signed word of that many bits holds it. -/
def fits? (bits : Nat) (n : Int) : Option Int :=
  if -2 ^ (bits - 1) ≤ n ∧ n < 2 ^ (bits - 1) then some n else none

/-- A truncated quotient, unless the divisor is zero or the word is too small. -/
def quotient? (bits : Nat) (p c : Int) : Option Int :=
  if c = 0 then none else fits? bits (p.tdiv c)

/-- The rounded quotient of a product by a positive divisor: half the divisor is added to the
product or taken away from it before the division. -/
def paddedQuotient? (bits : Nat) (a b c : Int) : Option Int := do
  let product ← fits? bits (a * b)
  let half ← quotient? bits c 2
  let padded ← fits? bits (if product < 0 then product - half else product + half)
  quotient? bits padded c

/-- The rounded quotient of a product.  The sign of the divisor is moved to the first factor. -/
def checkedQuotient? (bits : Nat) (a b c : Int) : Option Int :=
  if c < 0 then do
    let factor ← fits? bits (-a)
    let divisor ← fits? bits (-c)
    paddedQuotient? bits factor b divisor
  else paddedQuotient? bits a b c

theorem fits?_of_mem {bits : Nat} {n : Int} (h : n.natAbs < 2 ^ (bits - 1)) :
    fits? bits n = some n := by
  have hcast : ((2 ^ (bits - 1) : Nat) : Int) = 2 ^ (bits - 1) := by norm_cast
  refine if_pos ?_
  rw [← hcast]
  omega

theorem quotient?_of_mem {bits : Nat} {p c : Int} (hc : c ≠ 0) (h : p.natAbs < 2 ^ (bits - 1)) :
    quotient? bits p c = some (p.tdiv c) := by
  rw [quotient?, if_neg hc]
  exact fits?_of_mem (Nat.lt_of_le_of_lt (Int.natAbs_tdiv_le_natAbs p c) h)

theorem paddedQuotient?_eq {bits : Nat} {a b c : Int} (hc : 0 < c)
    (room : a.natAbs * b.natAbs + c.natAbs < 2 ^ (bits - 1)) :
    paddedQuotient? bits a b c = some ((paddedDividend (a * b) c).tdiv c) := by
  have hproduct : (a * b).natAbs + c.natAbs < 2 ^ (bits - 1) := by rwa [Int.natAbs_mul]
  have hhalf : c.tdiv 2 = c / 2 := Int.tdiv_eq_ediv_of_nonneg (by omega)
  have hpadded : (paddedDividend (a * b) c).natAbs < 2 ^ (bits - 1) := by
    unfold paddedDividend
    split <;> omega
  unfold paddedQuotient?
  rw [fits?_of_mem (n := a * b) (by omega), Option.bind_eq_bind, Option.bind_some,
    quotient?_of_mem (by decide) (by omega), hhalf, Option.bind_some]
  show (fits? bits (paddedDividend (a * b) c)).bind _ = _
  rw [fits?_of_mem hpadded, Option.bind_some, quotient?_of_mem (by omega) hpadded]

/-- With room for the product and the divisor together, all steps fit. -/
theorem checkedQuotient?_eq {bits : Nat} {a b c : Int} (hc : c ≠ 0)
    (room : a.natAbs + a.natAbs * b.natAbs + c.natAbs < 2 ^ (bits - 1)) :
    checkedQuotient? bits a b c = some (divNearest (a * b) c) := by
  unfold checkedQuotient? divNearest
  split
  · next hneg =>
    rw [fits?_of_mem (n := -a) (by omega), Option.bind_eq_bind, Option.bind_some,
      fits?_of_mem (n := -c) (by omega), Option.bind_some,
      paddedQuotient?_eq (by omega) (by rw [Int.natAbs_neg, Int.natAbs_neg]; omega), Int.neg_mul]
  · exact paddedQuotient?_eq (by omega) (by omega)

/-! ## Helpers -/

/-- Multiplying and dividing with 64 bits in between. -/
def checkedMulDiv? (a b c : Int32) : Option (Option Int32) :=
  if c = 0 then some none
  else (checkedQuotient? 64 a.toInt b.toInt c.toInt).map narrow32?

/-- Multiplying and dividing wide spans with 128 bits in between. -/
def checkedSpan? (a b c : Int) : Option Int :=
  if c = 0 then some 0 else (checkedQuotient? 128 a b c).map clamp64

theorem natAbs_toInt_le (a : Int32) : a.toInt.natAbs ≤ 2 ^ 31 := by
  have h := toInt_mem32 a
  unfold least32 greatest32 at h
  omega

theorem checkedMulDiv?_eq (a b c : Int32) : checkedMulDiv? a b c = some (mulDiv a b c) := by
  unfold checkedMulDiv? mulDiv
  by_cases hc : c = 0
  · rw [if_pos hc, if_pos hc]
  · have hc' : c.toInt ≠ 0 := fun h => hc (Int32.toInt_inj.mp h)
    have ha := natAbs_toInt_le a
    have hproduct := Nat.mul_le_mul ha (natAbs_toInt_le b)
    have hdivisor := natAbs_toInt_le c
    rw [if_neg hc, if_neg hc, checkedQuotient?_eq hc' (by omega), Option.map_some]

theorem checkedSpan?_eq {a b c : Int} (ha : a.natAbs ≤ 2 ^ 63) (hb : b.natAbs ≤ 2 ^ 63)
    (hc : c.natAbs ≤ 2 ^ 63) : checkedSpan? a b c = some (mulDivSpan a b c) := by
  unfold checkedSpan? mulDivSpan
  by_cases hzero : c = 0
  · rw [if_pos hzero, if_pos hzero]
  · have hproduct := Nat.mul_le_mul ha hb
    rw [if_neg hzero, if_neg hzero, checkedQuotient?_eq hzero (by omega), Option.map_some]

/-- The straight line from `(lo, outLo)` to `(hi, outHi)`, with 64 bits for all differences. -/
def checkedLine? (lo hi outLo outHi v : Int32) : Option Int32 := do
  let way ← fits? 64 (v.toInt - lo.toInt)
  let rise ← fits? 64 (outHi.toInt - outLo.toInt)
  let width ← fits? 64 (hi.toInt - lo.toInt)
  let step ← checkedSpan? way rise width
  let sum ← fits? 64 (outLo.toInt + step)
  return clamp32 sum

/-- Between the ends of a line every step fits. -/
theorem checkedLine?_eq {lo hi v : Int32} (outLo outHi : Int32) (apart : hi.toInt - lo.toInt ≠ 0)
    (hway : Toward 0 (hi.toInt - lo.toInt) (v.toInt - lo.toInt) (v.toInt - lo.toInt)) :
    checkedLine? lo hi outLo outHi v = some (clamp32 (outLo.toInt +
      mulDivSpan (v.toInt - lo.toInt) (outHi.toInt - outLo.toInt) (hi.toInt - lo.toInt))) := by
  have hv := natAbs_toInt_le v
  have hl := natAbs_toInt_le lo
  have hh := natAbs_toInt_le hi
  have hol := natAbs_toInt_le outLo
  have hoh := natAbs_toInt_le outHi
  have hshare := share_along (outHi.toInt - outLo.toInt) apart hway
  obtain ⟨hstep, _⟩ := interpolate_exactly outLo outHi apart hway
  unfold Toward at hshare
  unfold checkedLine?
  simp only [Option.bind_eq_bind]
  rw [fits?_of_mem (by omega), Option.bind_some, fits?_of_mem (by omega), Option.bind_some,
    fits?_of_mem (by omega), Option.bind_some, checkedSpan?_eq (by omega) (by omega) (by omega),
    Option.bind_some, hstep, fits?_of_mem (by omega), Option.bind_some]
  rfl

/-! ## The centered mapping -/

/-- The center of a range, from a sum that a float of 53 bits holds exactly. -/
def checkedMidpoint? (lo hi : Int32) : Option Int32 :=
  if lo = 0 then some (Int32.ofInt (hi.toInt / 2))
  else (fits? 54 (lo.toInt + hi.toInt)).map fun sum => clamp32 (divNearest sum 2)

/-- Ten-thousandths of a span. -/
def checkedPercent? (span percent : Int32) : Option Int32 :=
  (checkedMulDiv? span percent percentScale).map (·.getD 0)

/-- The physical value of a window. -/
def Window.checkedPlace? (w : Window) (v : Int32) : Option Int32 :=
  if v ≤ w.lo then some w.outLo
  else if w.hi ≤ v then some w.outHi
  else do
    let way ← fits? 64 (v.toInt - w.lo.toInt)
    let rise ← fits? 64 (w.outHi.toInt - w.outLo.toInt)
    let width ← fits? 64 (w.hi.toInt - w.lo.toInt)
    let step ← checkedSpan? way rise width
    let sum ← fits? 64 (w.outLo.toInt + step)
    return clamp32 sum

/-- One half of an axis, given both centers. -/
def Calibration.checkedWindow? (c : Calibration) (logical physical v : Int32) : Option Window :=
  if v ≤ 0 then do
    let side := satSub32 c.logicalMin logical
    let lo ← checkedPercent? side c.saturation
    let hi ← checkedPercent? side c.deadzone
    return ⟨lo, hi, c.rangeMin, physical⟩
  else do
    let side := satSub32 c.logicalMax logical
    let lo ← checkedPercent? side c.deadzone
    let hi ← checkedPercent? side c.saturation
    return ⟨lo, hi, physical, c.rangeMax⟩

/-- The centered mapping. -/
def checkedScaleAxis? (raw : Int32) (c : Calibration) : Option Int32 := do
  let logical ← checkedMidpoint? c.logicalMin c.logicalMax
  let physical ← checkedMidpoint? c.rangeMin c.rangeMax
  let v := satSub32 raw logical
  let window ← c.checkedWindow? logical physical v
  window.checkedPlace? v

theorem checkedMidpoint?_eq (lo hi : Int32) :
    checkedMidpoint? lo hi = some (midpoint lo hi) := by
  have hlo := natAbs_toInt_le lo
  have hhi := natAbs_toInt_le hi
  unfold checkedMidpoint? midpoint
  split
  · rfl
  · rw [fits?_of_mem (by omega), Option.map_some]

theorem checkedPercent?_eq (span percent : Int32) :
    checkedPercent? span percent = some (percentOf span percent) := by
  rw [checkedPercent?, checkedMulDiv?_eq]
  rfl

/-- Where a window divides, its bounds are apart, and every step fits. -/
theorem Window.checkedPlace?_eq (w : Window) (v : Int32) :
    w.checkedPlace? v = some (w.place v) := by
  unfold checkedPlace? place
  split
  · rfl
  · split
    · rfl
    · next hlo hhi =>
      rw [Int32.le_iff_toInt_le] at hlo hhi
      exact checkedLine?_eq w.outLo w.outHi (by omega) (Or.inl (by omega))

theorem Calibration.checkedWindow?_eq (c : Calibration) (v : Int32) :
    c.checkedWindow? c.logicalCenter c.physicalCenter v = some (c.windowAt v) := by
  unfold checkedWindow? windowAt
  split
  · simp only [checkedPercent?_eq, Option.bind_eq_bind, Option.bind_some]
    rfl
  · simp only [checkedPercent?_eq, Option.bind_eq_bind, Option.bind_some]
    rfl

/-- No step of the centered mapping leaves its word, and none divides by zero. -/
theorem checkedScaleAxis?_eq (raw : Int32) (c : Calibration) :
    checkedScaleAxis? raw c = some (scaleAxis raw c) := by
  unfold checkedScaleAxis?
  simp only [checkedMidpoint?_eq, Option.bind_eq_bind, Option.bind_some]
  show (c.checkedWindow? c.logicalCenter c.physicalCenter (c.deflection raw)).bind _ = _
  rw [c.checkedWindow?_eq, Option.bind_some]
  exact Window.checkedPlace?_eq _ _

/-! ## One axis -/

/-- For every calibration whatsoever: the mapping needs no wider words and never divides by
zero, it stays between the ends of the physical range, and it rises or falls with the raw value
as the range does. -/
theorem scaleAxis_total_bounded_monotone (c : Calibration) :
    (∀ raw, checkedScaleAxis? raw c = some (scaleAxis raw c)) ∧
    (∀ raw, min c.rangeMin c.rangeMax ≤ scaleAxis raw c ∧
      scaleAxis raw c ≤ max c.rangeMin c.rangeMax) ∧
    (c.rangeMin ≤ c.rangeMax → ∀ raw raw', raw ≤ raw' → scaleAxis raw c ≤ scaleAxis raw' c) ∧
    (c.rangeMax ≤ c.rangeMin → ∀ raw raw', raw ≤ raw' → scaleAxis raw' c ≤ scaleAxis raw c) := by
  refine ⟨fun raw => checkedScaleAxis?_eq raw c, fun raw => ?_, fun hup raw raw' h => ?_,
    fun hdown raw raw' h => ?_⟩
  · have hin := scaleAxis_toward c (Int.le_refl raw.toInt)
    unfold Toward at hin
    have hmin : min c.rangeMin c.rangeMax =
        if c.rangeMin ≤ c.rangeMax then c.rangeMin else c.rangeMax := rfl
    have hmax : max c.rangeMin c.rangeMax =
        if c.rangeMin ≤ c.rangeMax then c.rangeMax else c.rangeMin := rfl
    rw [hmin, hmax]
    split <;> simp only [Int32.le_iff_toInt_le] at * <;> omega
  · have hway := scaleAxis_toward c (Int32.le_iff_toInt_le.mp h)
    unfold Toward at hway
    rw [Int32.le_iff_toInt_le] at hup ⊢
    omega
  · have hway := scaleAxis_toward c (Int32.le_iff_toInt_le.mp h)
    unfold Toward at hway
    rw [Int32.le_iff_toInt_le] at hdown ⊢
    omega

/-- Logical bounds in the wrong order, a negative dead zone, a saturation beyond the whole, and
a full range that falls. -/
theorem scaleAxis_total_bounded_monotone_crossed :
    let c : Calibration :=
      { logicalMin := 2147483647, logicalMax := -2147483648, rangeMin := 2147483647
        rangeMax := -2147483648, deadzone := -2147483648, saturation := 20000, granularity := 1 }
    c.rangeMax ≤ c.rangeMin ∧ (-5 : Int32) ≤ 70000 ∧ scaleAxis 70000 c ≤ scaleAxis (-5) c ∧
      checkedScaleAxis? 70000 c = some (scaleAxis 70000 c) := by
  intro c
  have falls : c.rangeMax ≤ c.rangeMin := by decide
  have ordered : (-5 : Int32) ≤ 70000 := by decide
  obtain ⟨total, -, -, falling⟩ := scaleAxis_total_bounded_monotone c
  exact ⟨falls, ordered, falling falls _ _ ordered, total 70000⟩

end RemotePad
