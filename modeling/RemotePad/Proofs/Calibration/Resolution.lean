import RemotePad.Proofs.Calibration.Halves

/-!
# Positions that are kept apart

Without a dead zone and without saturation each half of an axis is one window from the center to
its end.  If the physical half has at least as many steps as the logical one, no two raw values
share a physical value.

* `Window.place_lt`: a window that rises by its width or more keeps all values apart.
* `held32_offset`: in a narrow enough range no distance from the center is held in 32 bits, so the
  windows are as wide as the halves (`lowerWindow_bounds`, `upperWindow_bounds`).
* `scaleAxis_keeps_apart` puts both halves together.
-/

namespace RemotePad

/-! ## Windows -/

namespace Window

variable {w : Window} {v v' : Int32}

/-- From one end of a window to the other, the ends included, a value is as far as it has gone. -/
theorem toInt_place (hwidth : w.lo.toInt < w.hi.toInt) (hlo : w.lo.toInt ≤ v.toInt)
    (hhi : v.toInt ≤ w.hi.toInt) : (w.place v).toInt = w.outLo.toInt + w.progress v := by
  rcases w.place_cases v with ⟨hv, hplace⟩ | ⟨_, hv, hplace⟩ | ⟨_, _, hplace⟩
  · have hstart : v = w.lo := Int32.toInt_inj.mp (by omega)
    rw [hplace, hstart, progress_lo (by omega), Int.add_zero]
  · have hend : v = w.hi := Int32.toInt_inj.mp (by omega)
    rw [hplace, hend, progress_hi (by omega)]
    omega
  · exact hplace

/-- A window that rises by its width or more keeps all values apart. -/
theorem place_lt (hrise : w.hi.toInt - w.lo.toInt ≤ w.outHi.toInt - w.outLo.toInt)
    (hlo : w.lo.toInt ≤ v.toInt) (h : v.toInt < v'.toInt) (hhi : v'.toInt ≤ w.hi.toInt) :
    (w.place v).toInt < (w.place v').toInt := by
  rw [toInt_place (by omega) hlo (by omega), toInt_place (by omega) (by omega) hhi]
  have hprogress : w.progress v < w.progress v' :=
    divNearest_mul_lt (by omega) hrise (by omega) (by omega)
  omega

end Window

/-! ## Whole halves -/

namespace Calibration

theorem edge_zero (c : Calibration) (h : Half) : c.edge h 0 = 0 := by
  have hnone : (0 : Int32).toInt * c.span h = 0 := Int.zero_mul _
  rw [edge_eq_divNearest, hnone, divNearest_zero (by decide)]

theorem edge_whole (c : Calibration) (h : Half) : c.edge h 10000 = c.span h := by
  rw [edge_eq_divNearest, Int.mul_comm]
  exact divNearest_mul_self _ (by decide)

variable {c : Calibration}

/-- In a range that is narrow enough, no distance from the center has to be held in 32 bits. -/
theorem held32_offset (narrow : c.logicalMax.toInt - c.logicalMin.toInt < 4294967295) {n : Int}
    (low : c.logicalMin.toInt ≤ n) (high : n ≤ c.logicalMax.toInt) :
    held32 (n - c.origin) = n - c.origin := by
  have hcenter := midpoint_near c.logicalMin c.logicalMax
  rw [← toInt_logicalCenter]
  unfold held32 least32 greatest32 logicalCenter
  omega

section Whole

variable (ordered : c.logicalMin.toInt < c.logicalMax.toInt)
  (narrow : c.logicalMax.toInt - c.logicalMin.toInt < 4294967295)
  (awake : c.deadzone = 0) (whole : c.saturation = 10000)
include ordered narrow awake whole

theorem lowerWindow_bounds :
    c.lowerWindow.lo.toInt = c.logicalMin.toInt - c.origin ∧
      c.lowerWindow.hi.toInt = 0 := by
  have hspan : c.span .lower = c.logicalMin.toInt - c.origin :=
    held32_offset narrow (Int.le_refl _) ordered.le
  simp only [lowerWindow, awake, whole]
  constructor
  · rw [c.toInt_percentOf_lower (by decide) (by decide), edge_whole, hspan]
  · rw [c.toInt_percentOf_lower (by decide) (by decide), edge_zero]

theorem upperWindow_bounds :
    c.upperWindow.lo.toInt = 0 ∧
      c.upperWindow.hi.toInt = c.logicalMax.toInt - c.origin := by
  have hspan : c.span .upper = c.logicalMax.toInt - c.origin :=
    held32_offset narrow ordered.le (Int.le_refl _)
  simp only [upperWindow, awake, whole]
  constructor
  · rw [c.toInt_percentOf_upper (by decide) (by decide), edge_zero]
  · rw [c.toInt_percentOf_upper (by decide) (by decide), edge_whole, hspan]

end Whole

end Calibration

/-! ## Both halves -/

section Halves

variable {c : Calibration} (ordered : c.logicalMin.toInt < c.logicalMax.toInt)
  (narrow : c.logicalMax.toInt - c.logicalMin.toInt < 4294967295)
  (awake : c.deadzone = 0) (whole : c.saturation = 10000)
include ordered narrow awake whole

variable {v v' : Int32}

theorem lowerWindow_place_lt
    (lower : c.origin - c.logicalMin.toInt ≤ c.rest - c.rangeMin.toInt)
    (low : c.logicalMin.toInt - c.origin ≤ v.toInt) (h : v.toInt < v'.toInt)
    (high : v'.toInt ≤ 0) :
    (c.lowerWindow.place v).toInt < (c.lowerWindow.place v').toInt := by
  obtain ⟨hlo, hhi⟩ := Calibration.lowerWindow_bounds ordered narrow awake whole
  have hrise : c.lowerWindow.outHi.toInt - c.lowerWindow.outLo.toInt =
      c.rest - c.rangeMin.toInt := by
    rw [← c.toInt_physicalCenter]
    rfl
  exact Window.place_lt (by omega) (by omega) h (by omega)

theorem upperWindow_place_lt
    (upper : c.logicalMax.toInt - c.origin ≤ c.rangeMax.toInt - c.rest)
    (low : 0 ≤ v.toInt) (h : v.toInt < v'.toInt)
    (high : v'.toInt ≤ c.logicalMax.toInt - c.origin) :
    (c.upperWindow.place v).toInt < (c.upperWindow.place v').toInt := by
  obtain ⟨hlo, hhi⟩ := Calibration.upperWindow_bounds ordered narrow awake whole
  have hrise : c.upperWindow.outHi.toInt - c.upperWindow.outLo.toInt =
      c.rangeMax.toInt - c.rest := by
    rw [← c.toInt_physicalCenter]
    rfl
  exact Window.place_lt (by omega) (by omega) h (by omega)

/-- The upper window starts at the physical center. -/
theorem upperWindow_place_zero : c.upperWindow.place 0 = c.physicalCenter := by
  obtain ⟨hlo, _⟩ := Calibration.upperWindow_bounds ordered narrow awake whole
  exact Window.place_of_le hlo.ge

/-- Where both physical halves have at least as many steps as the logical ones, a greater raw
value has a greater physical one. -/
theorem scaleAxis_lt
    (lower : c.origin - c.logicalMin.toInt ≤ c.rest - c.rangeMin.toInt)
    (upper : c.logicalMax.toInt - c.origin ≤ c.rangeMax.toInt - c.rest)
    {raw raw' : Int32} (low : c.logicalMin.toInt ≤ raw.toInt) (h : raw.toInt < raw'.toInt)
    (high : raw'.toInt ≤ c.logicalMax.toInt) :
    (scaleAxis raw c).toInt < (scaleAxis raw' c).toInt := by
  have hv : (c.deflection raw).toInt = raw.toInt - c.origin :=
    (c.toInt_deflection raw).trans (Calibration.held32_offset narrow low (by omega))
  have hv' : (c.deflection raw').toInt = raw'.toInt - c.origin :=
    (c.toInt_deflection raw').trans (Calibration.held32_offset narrow (by omega) high)
  unfold scaleAxis
  rcases c.windowAt_cases (c.deflection raw) with ⟨hlow, hw⟩ | ⟨hlow, hw⟩ <;>
    rcases c.windowAt_cases (c.deflection raw') with ⟨hhigh, hw'⟩ | ⟨hhigh, hw'⟩ <;>
    rw [hw, hw']
  · exact lowerWindow_place_lt ordered narrow awake whole lower (by omega) (by omega) hhigh
  · -- the center is not below the one value, even where there is no lower half, and below the other
    have hrest := c.toInt_physicalCenter
    have hbelow : (c.lowerWindow.place (c.deflection raw)).toInt ≤ c.rest := by
      have hcenter := c.physicalCenter_mem
      have hplace := c.lowerWindow.place_toward (Int.le_refl (c.deflection raw).toInt)
      simp only [Toward, Calibration.lowerWindow] at hplace ⊢
      omega
    have habove : (c.upperWindow.place 0).toInt < (c.upperWindow.place (c.deflection raw')).toInt :=
      upperWindow_place_lt ordered narrow awake whole upper (Int.le_refl _) hhigh (by omega)
    rw [upperWindow_place_zero ordered narrow awake whole] at habove
    omega
  · omega
  · exact upperWindow_place_lt ordered narrow awake whole upper (by omega) (by omega) (by omega)

end Halves

/-- An axis with logical bounds in order and less than 32 bits apart, no dead zone, no saturation,
and at least as many physical steps as logical ones on either side of its centers, so that its
range rises: a greater raw value is reported as a greater one, and no two raw values between the
bounds are reported as the same. -/
theorem scaleAxis_keeps_apart (c : Calibration) (ordered : c.logicalMin < c.logicalMax)
    (narrow : c.logicalMax.toInt - c.logicalMin.toInt < 4294967295)
    (awake : c.deadzone = 0) (whole : c.saturation = 10000)
    (lower : c.origin - c.logicalMin.toInt ≤ c.rest - c.rangeMin.toInt)
    (upper : c.logicalMax.toInt - c.origin ≤ c.rangeMax.toInt - c.rest) :
    (∀ raw raw', c.logicalMin ≤ raw → raw < raw' → raw' ≤ c.logicalMax →
      scaleAxis raw c < scaleAxis raw' c) ∧
    ∀ raw raw', (c.logicalMin ≤ raw ∧ raw ≤ c.logicalMax) →
      (c.logicalMin ≤ raw' ∧ raw' ≤ c.logicalMax) →
      scaleAxis raw c = scaleAxis raw' c → raw = raw' := by
  simp only [Int32.le_iff_toInt_le, Int32.lt_iff_toInt_lt] at ordered ⊢
  have strict := @scaleAxis_lt c ordered narrow awake whole lower upper
  refine ⟨fun raw raw' low h high => strict low h high, ?_⟩
  rintro raw raw' ⟨low, high⟩ ⟨low', high'⟩ same
  rw [← Int32.toInt_inj] at same ⊢
  rcases Int.lt_trichotomy raw.toInt raw'.toInt with h | h | h
  · have := strict low h high'
    omega
  · exact h
  · have := strict low' h high
    omega

/-- The widest logical range there may be, whose two halves have 31 bits each, on a physical range
over all 32-bit integers. -/
theorem scaleAxis_keeps_apart_widest :
    let c : Calibration :=
      { logicalMin := -2147483648, logicalMax := 2147483646, rangeMin := -2147483648
        rangeMax := 2147483647, deadzone := 0, saturation := 10000, granularity := 1 }
    (c.logicalMin < c.logicalMax ∧ c.logicalMax.toInt - c.logicalMin.toInt < 4294967295 ∧
      c.deadzone = 0 ∧ c.saturation = 10000) ∧
    c.origin - c.logicalMin.toInt ≤ c.rest - c.rangeMin.toInt ∧
    c.logicalMax.toInt - c.origin ≤ c.rangeMax.toInt - c.rest ∧
    (c.logicalMin ≤ -1 ∧ (-1 : Int32) < 0 ∧ 0 ≤ c.logicalMax) ∧
    scaleAxis (-1) c < scaleAxis 0 c ∧ scaleAxis 2147483645 c ≠ scaleAxis 2147483646 c := by
  intro c
  have bounds : c.logicalMin < c.logicalMax ∧
      c.logicalMax.toInt - c.logicalMin.toInt < 4294967295 ∧ c.deadzone = 0 ∧
      c.saturation = 10000 := by decide
  obtain ⟨ordered, narrow, awake, whole⟩ := bounds
  have lower : c.origin - c.logicalMin.toInt ≤ c.rest - c.rangeMin.toInt := by
    rw [← c.toInt_logicalCenter, ← c.toInt_physicalCenter]
    decide
  have upper : c.logicalMax.toInt - c.origin ≤ c.rangeMax.toInt - c.rest := by
    rw [← c.toInt_logicalCenter, ← c.toInt_physicalCenter]
    decide
  have inside : c.logicalMin ≤ -1 ∧ (-1 : Int32) < 0 ∧ 0 ≤ c.logicalMax := by decide
  obtain ⟨strict, single⟩ := scaleAxis_keeps_apart c ordered narrow awake whole lower upper
  refine ⟨⟨ordered, narrow, awake, whole⟩, lower, upper, inside,
    strict _ _ inside.1 inside.2.1 inside.2.2, fun same => ?_⟩
  exact absurd (single _ _ (by decide) (by decide) same) (by decide)

end RemotePad
