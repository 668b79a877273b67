import RemotePad.Proofs.Calibration.Centered
import RemotePad.Proofs.Calibration.Exact

/-!
# The two halves of an axis

A calibrated axis is at rest up to the edge of its dead zone, at the end of its range from the
edge of its saturation on, and goes along a straight line between the two edges.  This is said
here of both halves alike, with exact numbers, and compared with the windows that `scaleAxis`
goes by.

* `middle`: the middle of a range, as an exact number rounded once.  `toInt_midpoint`: this is
  the center that `scaleAxis` computes.
* `Half`: the half of a deflection, with its end, its span and the edges on it.
* `edge_toward`: the edges of a half lie on the way from the center to its end, in the order of
  their percentages.
* `toInt_percentOf` and its consequences: the bounds of the windows are the edges.
* `Window.place_on_line`: inside a window the value is the one on the exact line, rounded.
* `scaleAxis_dead_full_or_on_line`: the three parts of a half, whatever the direction of the range.
-/

namespace RemotePad

/-! ## Numbers -/

/-- An integer held inside 32 bits. -/
def held32 (n : Int) : Int := max least32 (min n greatest32)

theorem held32_mono {m n : Int} (h : m ≤ n) : held32 m ≤ held32 n := by
  unfold held32
  omega

/-- Distinct integers stay distinct unless both are held at the greatest one. -/
theorem held32_lt_or_eq {m n : Int} (hm : 0 ≤ held32 m) (h : m < n) :
    held32 m < held32 n ∨ held32 m = greatest32 ∧ held32 n = greatest32 := by
  unfold held32 least32 greatest32 at *
  omega

theorem held32_of_nonneg {n : Int} (h : 0 ≤ n) : held32 n = n ∨ held32 n = greatest32 := by
  unfold held32 least32 greatest32
  omega

theorem held32_nonneg {n : Int} (h : 0 ≤ n) : 0 ≤ held32 n := by
  unfold held32 least32 greatest32
  omega

theorem held32_nonpos {n : Int} (h : n ≤ 0) : held32 n ≤ 0 := by
  unfold held32 least32 greatest32
  omega

/-- The middle of a range: half the sum of its bounds, where a half goes away from zero.  Only the
middle of a range that starts at zero is rounded down. -/
def middle (lo hi : ℤ) : ℤ :=
  if lo = 0 then ⌊(hi / 2 : ℚ)⌋ else roundAway ((lo + hi) / 2)

theorem toInt_midpoint (lo hi : Int32) : (midpoint lo hi).toInt = middle lo.toInt hi.toInt := by
  have hlo := toInt_mem32 lo
  have hhi := toInt_mem32 hi
  unfold least32 greatest32 at hlo hhi
  unfold midpoint middle
  by_cases hzero : lo = 0
  · have hzero' : lo.toInt = 0 := congrArg Int32.toInt hzero
    rw [if_pos hzero, if_pos hzero',
      toInt_ofInt32 (by unfold least32; omega) (by unfold greatest32; omega)]
    exact (Rat.floor_intCast_div_natCast hi.toInt 2).symm
  · have hzero' : lo.toInt ≠ 0 := fun h => hzero (Int32.toInt_inj.mp h)
    have hnear := divNearest_two (lo.toInt + hi.toInt)
    rw [if_neg hzero, if_neg hzero',
      toInt_clamp32_of_mem (by unfold least32; omega) (by unfold greatest32; omega),
      divNearest_eq_roundAway]
    push_cast
    rfl

/-- The value at `x` of the straight line through `(x₀, y₀)` and `(x₁, y₁)`. -/
def lineThrough (x₀ y₀ x₁ y₁ x : ℚ) : ℚ :=
  y₀ + (x - x₀) * (y₁ - y₀) / (x₁ - x₀)

/-- A line does not care for the order of its points. -/
theorem lineThrough_swap {x₀ x₁ : ℚ} (h : x₀ ≠ x₁) (y₀ y₁ x : ℚ) :
    lineThrough x₀ y₀ x₁ y₁ x = lineThrough x₁ y₁ x₀ y₀ x := by
  have h₁ : x₁ - x₀ ≠ 0 := sub_ne_zero.mpr h.symm
  have h₂ : x₀ - x₁ ≠ 0 := sub_ne_zero.mpr h
  unfold lineThrough
  field_simp
  ring

/-! ## Halves and their edges -/

/-- A half of an axis. -/
inductive Half where
  | lower
  | upper
  deriving Repr, DecidableEq

/-- The half of a deflection; no deflection at all belongs to the lower one. -/
def Half.of (deflection : Int) : Half :=
  if deflection ≤ 0 then .lower else .upper

namespace Calibration

/-- The last logical value of a half. -/
def logicalEnd (c : Calibration) : Half → Int32
  | .lower => c.logicalMin
  | .upper => c.logicalMax

/-- The end of the physical range that a half reaches. -/
def rangeEnd (c : Calibration) : Half → Int32
  | .lower => c.rangeMin
  | .upper => c.rangeMax

/-- The logical center, as a number: the raw value that is no deflection. -/
def origin (c : Calibration) : Int := middle c.logicalMin.toInt c.logicalMax.toInt

/-- The physical center, as a number: the value of no deflection. -/
def rest (c : Calibration) : Int := middle c.rangeMin.toInt c.rangeMax.toInt

theorem toInt_logicalCenter (c : Calibration) : c.logicalCenter.toInt = c.origin :=
  toInt_midpoint c.logicalMin c.logicalMax

theorem toInt_physicalCenter (c : Calibration) : c.physicalCenter.toInt = c.rest :=
  toInt_midpoint c.rangeMin c.rangeMax

/-- The way from the origin to the end of a half, with its sign. -/
def span (c : Calibration) (h : Half) : Int :=
  held32 ((c.logicalEnd h).toInt - c.origin)

theorem span_eq (c : Calibration) (h : Half) :
    c.span h = held32 ((c.logicalEnd h).toInt - c.logicalCenter.toInt) := by
  rw [span, toInt_logicalCenter]

/-- The given ten-thousandths of a span, rounded to a whole step. -/
def edge (c : Calibration) (h : Half) (percent : Int32) : Int :=
  roundAway (c.span h * percent.toInt / 10000)

theorem toInt_deflection (c : Calibration) (raw : Int32) :
    (c.deflection raw).toInt = held32 (raw.toInt - c.origin) := by
  rw [← toInt_logicalCenter]
  exact toInt_satSub32 raw c.logicalCenter

theorem edge_eq_divNearest (c : Calibration) (h : Half) (percent : Int32) :
    c.edge h percent = divNearest (percent.toInt * c.span h) 10000 := by
  rw [divNearest_eq_roundAway, edge]
  push_cast
  rw [mul_comm]

/-- Edges are passed in the order of their percentages, on the way from the center to the end. -/
theorem edge_toward (c : Calibration) (h : Half) {percent percent' : Int32}
    (hnonneg : 0 ≤ percent.toInt) (hle : percent.toInt ≤ percent'.toInt)
    (hwhole : percent'.toInt ≤ 10000) :
    Toward 0 (c.span h) (c.edge h percent) (c.edge h percent') := by
  rw [edge_eq_divNearest, edge_eq_divNearest]
  exact share_toward (c.span h) (by decide) hnonneg hle hwhole

theorem origin_mem {c : Calibration} (ordered : c.logicalMin.toInt < c.logicalMax.toInt) :
    c.logicalMin.toInt ≤ c.origin ∧ c.origin ≤ c.logicalMax.toInt := by
  have hmid := midpoint_mem c.logicalMin c.logicalMax
  rw [← toInt_logicalCenter]
  unfold logicalCenter
  omega

theorem span_lower_nonpos {c : Calibration} (ordered : c.logicalMin.toInt < c.logicalMax.toInt) :
    c.span .lower ≤ 0 :=
  held32_nonpos (Int.sub_nonpos_of_le (origin_mem ordered).1)

theorem span_upper_nonneg {c : Calibration} (ordered : c.logicalMin.toInt < c.logicalMax.toInt) :
    0 ≤ c.span .upper :=
  held32_nonneg (Int.sub_nonneg_of_le (origin_mem ordered).2)

end Calibration

/-! ## Windows -/

/-- A percentage of a span is an edge: the product fits, and its quotient is the exact one,
rounded. -/
theorem toInt_percentOf (s : Int32) {percent : Int32} (hnonneg : 0 ≤ percent.toInt)
    (hwhole : percent.toInt ≤ 10000) :
    (percentOf s percent).toInt = roundAway (s.toInt * percent.toInt / 10000) := by
  have hexact : (roundAway (s.toInt * percent.toInt / 10000) : Int) =
      divNearest (s.toInt * percent.toInt) 10000 := by
    rw [divNearest_eq_roundAway]
    push_cast
    rfl
  have hway := share_toward s.toInt (d := 10000) (by decide) hnonneg (Int.le_refl _) hwhole
  have hs := toInt_mem32 s
  have hfits : least32 ≤ divNearest (s.toInt * percent.toInt) 10000 ∧
      divNearest (s.toInt * percent.toInt) 10000 ≤ greatest32 := by
    rw [Int.mul_comm]
    unfold Toward at hway
    unfold least32 greatest32 at hs ⊢
    omega
  have hdiv : mulDiv s percent percentScale =
      some (Int32.ofInt (divNearest (s.toInt * percent.toInt) 10000)) := if_pos hfits
  rw [percentOf, hdiv, Option.getD_some, hexact]
  exact toInt_ofInt32 hfits.1 hfits.2

namespace Calibration

variable (c : Calibration) {percent : Int32}

theorem toInt_percentOf_lower (hnonneg : 0 ≤ percent.toInt) (hwhole : percent.toInt ≤ 10000) :
    (percentOf (satSub32 c.logicalMin c.logicalCenter) percent).toInt = c.edge .lower percent := by
  rw [toInt_percentOf _ hnonneg hwhole, toInt_satSub32, edge, span_eq]
  rfl

theorem toInt_percentOf_upper (hnonneg : 0 ≤ percent.toInt) (hwhole : percent.toInt ≤ 10000) :
    (percentOf (satSub32 c.logicalMax c.logicalCenter) percent).toInt = c.edge .upper percent := by
  rw [toInt_percentOf _ hnonneg hwhole, toInt_satSub32, edge, span_eq]
  rfl

end Calibration

namespace Window

variable {w : Window} {v : Int32}

theorem place_of_le (hlo : v.toInt ≤ w.lo.toInt) : w.place v = w.outLo :=
  if_pos (Int32.le_iff_toInt_le.mpr hlo)

theorem place_of_ge (hlo : w.lo.toInt < v.toInt) (hhi : w.hi.toInt ≤ v.toInt) :
    w.place v = w.outHi := by
  have hlow : ¬ v ≤ w.lo := by
    rw [Int32.le_iff_toInt_le]
    omega
  rw [place, if_neg hlow, if_pos (Int32.le_iff_toInt_le.mpr hhi)]

/-- At its one end nothing of a window has been gone through, at the other end all of it. -/
theorem progress_lo (apart : w.hi.toInt - w.lo.toInt ≠ 0) : w.progress w.lo = 0 := by
  have hnone := divNearest_mul_cancel 0 apart
  rw [Int.zero_mul] at hnone
  rw [progress, Int.sub_self, Int.zero_mul, hnone]

theorem progress_hi (apart : w.hi.toInt - w.lo.toInt ≠ 0) :
    w.progress w.hi = w.outHi.toInt - w.outLo.toInt := by
  rw [progress, Int.mul_comm]
  exact divNearest_mul_cancel _ apart

/-- The way that a value has gone through a window is the exact one, rounded. -/
theorem progress_on_line (w : Window) (v : Int32) :
    |((w.outLo.toInt + w.progress v : ℤ) : ℚ) -
      lineThrough w.lo.toInt w.outLo.toInt w.hi.toInt w.outHi.toInt v.toInt| ≤ 1 / 2 := by
  have hprogress : w.progress v = roundAway ((v.toInt - w.lo.toInt) *
      (w.outHi.toInt - w.outLo.toInt) / (w.hi.toInt - w.lo.toInt)) := by
    rw [progress, divNearest_eq_roundAway]
    push_cast
    rfl
  rw [hprogress, Int.cast_add, lineThrough, add_sub_add_left_eq_sub]
  exact abs_roundAway_sub_le _

/-- Inside a window the value is at most one half away from the exact straight line. -/
theorem place_on_line (hlo : w.lo.toInt < v.toInt) (hhi : v.toInt < w.hi.toInt) :
    |((w.place v).toInt : ℚ) -
      lineThrough w.lo.toInt w.outLo.toInt w.hi.toInt w.outHi.toInt v.toInt| ≤ 1 / 2 := by
  rw [(placed_exactly hlo hhi).2]
  exact w.progress_on_line v

end Window

/-! ## The parts of a half -/

/-- The three parts of a half, for the value at a deflection `v` when the edges of dead zone
and saturation are `dead` and `full`. -/
structure Calibration.Parts (c : Calibration) (h : Half) (dead full v : Int) (value : Int32) :
    Prop where
  /-- At or inside the edge of the dead zone the axis rests at its center. -/
  rests : |v| ≤ |dead| → value.toInt = c.rest
  /-- At or beyond the edge of the saturation it is at the end of its range. -/
  reaches : |full| ≤ |v| → value = c.rangeEnd h
  /-- In between it is at most one half away from the straight line through both edges. -/
  follows : |dead| < |v| → |v| < |full| →
    |(value.toInt : ℚ) -
      lineThrough dead c.rest full (c.rangeEnd h).toInt v| ≤ 1 / 2

section Parts

variable {c : Calibration} (ordered : c.logicalMin.toInt < c.logicalMax.toInt)
  (nonneg : 0 ≤ c.deadzone.toInt) (inside : c.deadzone.toInt ≤ c.saturation.toInt)
  (whole : c.saturation.toInt ≤ 10000)
include ordered nonneg inside whole

/-- The lower window saturates at its low end and rests at its high end. -/
theorem Calibration.parts_lower {v : Int32} (hv : v.toInt ≤ 0)
    (apart : c.edge .lower c.deadzone ≠ c.edge .lower c.saturation) :
    c.Parts .lower (c.edge .lower c.deadzone) (c.edge .lower c.saturation) v.toInt
      (c.lowerWindow.place v) := by
  have hlo : c.lowerWindow.lo.toInt = c.edge .lower c.saturation :=
    c.toInt_percentOf_lower (by omega) whole
  have hhi : c.lowerWindow.hi.toInt = c.edge .lower c.deadzone :=
    c.toInt_percentOf_lower nonneg (by omega)
  have hspan := span_lower_nonpos ordered
  have hedges := c.edge_toward .lower nonneg inside whole
  unfold Toward at hedges
  rw [← hlo, ← hhi] at apart hedges ⊢
  have hdead : |c.lowerWindow.hi.toInt| = -c.lowerWindow.hi.toInt := abs_of_nonpos (by omega)
  have hfull : |c.lowerWindow.lo.toInt| = -c.lowerWindow.lo.toInt := abs_of_nonpos (by omega)
  have hdeflected : |v.toInt| = -v.toInt := abs_of_nonpos hv
  refine ⟨fun h => ?rests, fun h => ?reaches, fun h h' => ?follows⟩
  case rests =>
    have hplace : c.lowerWindow.place v = c.physicalCenter :=
      Window.place_of_ge (by omega) (by omega)
    rw [hplace, toInt_physicalCenter]
  case reaches => exact Window.place_of_le (by omega)
  case follows =>
    have hline := Window.place_on_line (w := c.lowerWindow) (v := v) (by omega) (by omega)
    have hne : (c.lowerWindow.lo.toInt : ℚ) ≠ c.lowerWindow.hi.toInt := by
      intro heq
      have := Int.cast_inj.mp heq
      omega
    rw [lineThrough_swap hne] at hline
    rw [← toInt_physicalCenter]
    exact hline

/-- The upper window rests at its low end and saturates at its high end. -/
theorem Calibration.parts_upper {v : Int32} (hv : 0 < v.toInt)
    (apart : c.edge .upper c.deadzone ≠ c.edge .upper c.saturation) :
    c.Parts .upper (c.edge .upper c.deadzone) (c.edge .upper c.saturation) v.toInt
      (c.upperWindow.place v) := by
  have hlo : c.upperWindow.lo.toInt = c.edge .upper c.deadzone :=
    c.toInt_percentOf_upper nonneg (by omega)
  have hhi : c.upperWindow.hi.toInt = c.edge .upper c.saturation :=
    c.toInt_percentOf_upper (by omega) whole
  have hspan := span_upper_nonneg ordered
  have hedges := c.edge_toward .upper nonneg inside whole
  unfold Toward at hedges
  rw [← hlo, ← hhi] at apart hedges ⊢
  have hdead : |c.upperWindow.lo.toInt| = c.upperWindow.lo.toInt := abs_of_nonneg (by omega)
  have hfull : |c.upperWindow.hi.toInt| = c.upperWindow.hi.toInt := abs_of_nonneg (by omega)
  have hdeflected : |v.toInt| = v.toInt := abs_of_pos hv
  refine ⟨fun h => ?rests, fun h => ?reaches, fun h h' => ?follows⟩
  case rests =>
    have hplace : c.upperWindow.place v = c.physicalCenter := Window.place_of_le (by omega)
    rw [hplace, toInt_physicalCenter]
  case reaches => exact Window.place_of_ge (by omega) (by omega)
  case follows =>
    rw [← toInt_physicalCenter]
    exact Window.place_on_line (by omega) (by omega)

theorem parts_scaleAxis (raw : Int32)
    (apart : c.edge (Half.of (c.deflection raw).toInt) c.deadzone ≠
      c.edge (Half.of (c.deflection raw).toInt) c.saturation) :
    let h := Half.of (c.deflection raw).toInt
    c.Parts h (c.edge h c.deadzone) (c.edge h c.saturation) (c.deflection raw).toInt
      (scaleAxis raw c) := by
  intro h
  unfold scaleAxis
  rcases c.windowAt_cases (c.deflection raw) with ⟨hv, hwindow⟩ | ⟨hv, hwindow⟩
  · have hhalf : h = .lower := if_pos hv
    rw [hwindow, hhalf]
    exact Calibration.parts_lower ordered nonneg inside whole hv (hhalf ▸ apart)
  · have hhalf : h = .upper := if_neg (by omega)
    rw [hwindow, hhalf]
    exact Calibration.parts_upper ordered nonneg inside whole hv (hhalf ▸ apart)

end Parts

/-- On each half of an axis with logical bounds in order and a dead zone below its saturation,
whatever the physical range: where the two edges, rounded to whole steps, are apart, the axis
rests at its center up to the first edge, is at the end of its range from the second one on, and
goes along the exact straight line in between, rounded. -/
theorem scaleAxis_dead_full_or_on_line (c : Calibration) (ordered : c.logicalMin < c.logicalMax)
    (nonneg : 0 ≤ c.deadzone) (inside : c.deadzone ≤ c.saturation) (whole : c.saturation ≤ 10000)
    (raw : Int32) :
    let v := held32 (raw.toInt - c.origin)
    let h := Half.of v
    c.edge h c.deadzone ≠ c.edge h c.saturation →
      c.Parts h (c.edge h c.deadzone) (c.edge h c.saturation) v (scaleAxis raw c) := by
  rw [Int32.lt_iff_toInt_lt] at ordered
  rw [Int32.le_iff_toInt_le] at nonneg inside whole
  intro v h apart
  have hv : (c.deflection raw).toInt = v := c.toInt_deflection raw
  have hparts := parts_scaleAxis ordered nonneg inside whole raw
  rw [hv] at hparts
  exact hparts apart

/-- A range over all 32-bit integers that falls, seen between the edges of the lower half. -/
theorem scaleAxis_dead_full_or_on_line_falling :
    let c : Calibration :=
      { logicalMin := -1000, logicalMax := 1000, rangeMin := 2147483647, rangeMax := -2147483648
        deadzone := 2000, saturation := 9000, granularity := 1 }
    let v := held32 ((-500 : Int32).toInt - c.origin)
    let h := Half.of v
    (c.logicalMin < c.logicalMax ∧ 0 ≤ c.deadzone ∧ c.deadzone ≤ c.saturation ∧
      c.saturation ≤ 10000) ∧
    v = -500 ∧ h = .lower ∧ c.edge h c.deadzone = -200 ∧ c.edge h c.saturation = -900 ∧
    c.Parts h (c.edge h c.deadzone) (c.edge h c.saturation) v (scaleAxis (-500) c) := by
  intro c v h
  have bounds : c.logicalMin < c.logicalMax ∧ 0 ≤ c.deadzone ∧ c.deadzone ≤ c.saturation ∧
      c.saturation ≤ 10000 := by decide
  have hv : v = -500 := by
    show held32 ((-500 : Int32).toInt - c.origin) = -500
    rw [← c.toInt_logicalCenter]
    decide
  have hlower : h = .lower := if_pos (by omega)
  have hdead : c.edge h c.deadzone = -200 := by
    rw [hlower, c.edge_eq_divNearest, c.span_eq]
    decide
  have hfull : c.edge h c.saturation = -900 := by
    rw [hlower, c.edge_eq_divNearest, c.span_eq]
    decide
  have apart : c.edge h c.deadzone ≠ c.edge h c.saturation := by
    rw [hdead, hfull]
    decide
  obtain ⟨ordered, nonneg, inside, whole⟩ := bounds
  exact ⟨⟨ordered, nonneg, inside, whole⟩, hv, hlower, hdead, hfull,
    scaleAxis_dead_full_or_on_line c ordered nonneg inside whole (-500) apart⟩

end RemotePad
