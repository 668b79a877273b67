import RemotePad.Proofs.Calibration.Halves

/-!
# Full deflection

An axis that is pushed as far as it goes should be at the end of its range.  The lower half
always is.  In the upper half the edges are whole steps away from a center that is a whole step
itself, so the greatest logical value can lie inside the dead zone; any greater one is beyond it.

* `scaleAxis_of_le_logicalMin`: the lower end.
* `scaleAxis_of_edge_lt`: the upper end, for deflections that have left the dead zone;
  `edge_upper_lt_span` says when all of the half has not been used up by it.
* `full_deflection` puts both together, `full_deflection_at_center` is an axis whose greatest
  value is its center.
-/

namespace RemotePad

variable {c : Calibration} {raw : Int32}

/-- Below the logical range the axis is at the low end of its range. -/
theorem scaleAxis_of_le_logicalMin (ordered : c.logicalMin.toInt < c.logicalMax.toInt)
    (nonneg : 0 ≤ c.saturation.toInt) (whole : c.saturation.toInt ≤ 10000)
    (low : raw.toInt ≤ c.logicalMin.toInt) : scaleAxis raw c = c.rangeMin := by
  have hspan := Calibration.span_lower_nonpos ordered
  have hedge := c.edge_toward .lower nonneg (Int.le_refl _) whole
  unfold Toward at hedge
  have hv : (c.deflection raw).toInt ≤ c.span .lower := by
    rw [c.toInt_deflection]
    exact held32_mono (Int.sub_le_sub_right low _)
  have hlo : c.lowerWindow.lo.toInt = c.edge .lower c.saturation :=
    c.toInt_percentOf_lower nonneg whole
  rcases c.windowAt_cases (c.deflection raw) with ⟨_, hwindow⟩ | ⟨hpos, _⟩
  · rw [scaleAxis, hwindow, Window.place_of_le (by omega)]
    rfl
  · omega

/-- A dead zone that leaves more than half a step of the upper half ends before the half does. -/
theorem Calibration.edge_upper_lt_span {percent : Int32} (nonneg : 0 ≤ percent.toInt)
    (hspan : 0 ≤ c.span .upper) (room : 5000 < (10000 - percent.toInt) * c.span .upper) :
    c.edge .upper percent < c.span .upper := by
  rw [edge_eq_divNearest, divNearest_of_nonneg (Int.mul_nonneg nonneg hspan) (by decide)]
  rw [Int.sub_mul] at room
  exact Int.ediv_lt_of_lt_mul (by decide) (by omega)

section Upper

variable (ordered : c.logicalMin.toInt < c.logicalMax.toInt) (nonneg : 0 ≤ c.deadzone.toInt)
  (inside : c.deadzone.toInt < c.saturation.toInt) (whole : c.saturation.toInt ≤ 10000)
include ordered nonneg inside whole

/-- From the last logical value on, an axis outside its dead zone is at the high end. -/
theorem scaleAxis_of_edge_lt (high : c.logicalMax.toInt ≤ raw.toInt)
    (left : c.edge .upper c.deadzone < (c.deflection raw).toInt) :
    scaleAxis raw c = c.rangeMax := by
  have hspan := Calibration.span_upper_nonneg ordered
  have hedges := c.edge_toward .upper nonneg inside.le whole
  unfold Toward at hedges
  have hv : c.span .upper ≤ (c.deflection raw).toInt := by
    rw [c.toInt_deflection]
    exact held32_mono (Int.sub_le_sub_right high _)
  have hlo : c.upperWindow.lo.toInt = c.edge .upper c.deadzone :=
    c.toInt_percentOf_upper nonneg (by omega)
  have hhi : c.upperWindow.hi.toInt = c.edge .upper c.saturation :=
    c.toInt_percentOf_upper (by omega) whole
  rcases c.windowAt_cases (c.deflection raw) with ⟨hneg, _⟩ | ⟨_, hwindow⟩
  · omega
  · rw [scaleAxis, hwindow, Window.place_of_ge (by omega) (by omega)]
    rfl

/-- The last logical value is outside the dead zone if that leaves more than half a step. -/
theorem scaleAxis_logicalMax
    (room : 5000 < (10000 - c.deadzone.toInt) * (c.logicalMax.toInt - c.origin)) :
    scaleAxis c.logicalMax c = c.rangeMax := by
  have hspan := Calibration.span_upper_nonneg ordered
  have hroom : 5000 < (10000 - c.deadzone.toInt) * c.span .upper := by
    rcases held32_of_nonneg (Int.sub_nonneg_of_le (Calibration.origin_mem ordered).2)
      with hexact | hheld
    · rwa [Calibration.span, Calibration.logicalEnd, hexact]
    · -- a half that does not fit into 32 bits has room enough
      rw [Calibration.span, Calibration.logicalEnd, hheld, greatest32]
      omega
  refine scaleAxis_of_edge_lt ordered nonneg inside whole (Int.le_refl _) ?_
  rw [c.toInt_deflection]
  exact Calibration.edge_upper_lt_span nonneg hspan hroom

/-- Beyond the last logical value the axis is outside the dead zone. -/
theorem scaleAxis_of_logicalMax_lt (high : c.logicalMax.toInt < raw.toInt) :
    scaleAxis raw c = c.rangeMax := by
  have hspan := Calibration.span_upper_nonneg ordered
  have hedge := c.edge_toward .upper nonneg inside.le whole
  unfold Toward at hedge
  refine scaleAxis_of_edge_lt ordered nonneg inside whole high.le ?_
  have hfarther : c.span .upper < (c.deflection raw).toInt ∨
      c.span .upper = greatest32 ∧ (c.deflection raw).toInt = greatest32 := by
    rw [c.toInt_deflection]
    exact held32_lt_or_eq hspan (Int.sub_lt_sub_right high _)
  rcases hfarther with hlt | ⟨hheld, hv⟩
  · omega
  · -- both are held at the greatest integer, which no dead zone reaches
    have hroom : 5000 < (10000 - c.deadzone.toInt) * c.span .upper := by
      rw [hheld, greatest32]
      omega
    rw [hv, ← hheld]
    exact Calibration.edge_upper_lt_span nonneg hspan hroom

end Upper

/-- Full deflection, for logical bounds in order and a dead zone below its saturation.  The low
end of the logical range and everything below it is at the low end of the physical one, and
everything above the logical range is at the high end.  The last logical value itself is there
too, if the dead zone leaves more than half a step of the upper half.  If there is no upper half,
because the center was rounded to the last logical value, that value is a center: where the two
edges of the lower half are apart, the axis rests there. -/
theorem full_deflection (c : Calibration) (ordered : c.logicalMin < c.logicalMax)
    (nonneg : 0 ≤ c.deadzone) (inside : c.deadzone < c.saturation) (whole : c.saturation ≤ 10000) :
    (∀ raw, raw ≤ c.logicalMin → scaleAxis raw c = c.rangeMin) ∧
    (∀ raw, c.logicalMax < raw → scaleAxis raw c = c.rangeMax) ∧
    (5000 < (10000 - c.deadzone.toInt) * (c.logicalMax.toInt - c.origin) →
      scaleAxis c.logicalMax c = c.rangeMax) ∧
    (c.origin = c.logicalMax.toInt →
      c.edge .lower c.deadzone ≠ c.edge .lower c.saturation →
      (scaleAxis c.logicalMax c).toInt = c.rest) := by
  rw [Int32.lt_iff_toInt_lt] at ordered inside
  rw [Int32.le_iff_toInt_le] at nonneg whole
  have hsaturation : 0 ≤ c.saturation.toInt := Int.le_trans nonneg inside.le
  refine ⟨fun raw low => ?low, fun raw high => ?high, fun room => ?last, fun horigin apart => ?rest⟩
  case low =>
    exact scaleAxis_of_le_logicalMin ordered hsaturation whole (Int32.le_iff_toInt_le.mp low)
  case high =>
    exact scaleAxis_of_logicalMax_lt ordered nonneg inside whole (Int32.lt_iff_toInt_lt.mp high)
  case last => exact scaleAxis_logicalMax ordered nonneg inside whole room
  case rest =>
    have hv : (c.deflection c.logicalMax).toInt = 0 := by
      rw [c.toInt_deflection, horigin, Int.sub_self]
      rfl
    have hhalf : Half.of (c.deflection c.logicalMax).toInt = .lower := by
      rw [hv]
      rfl
    have hparts := parts_scaleAxis ordered nonneg inside.le whole c.logicalMax (hhalf ▸ apart)
    refine hparts.rests ?_
    rw [hv, abs_zero]
    exact abs_nonneg _

/-- The last of two logical values: with a dead zone of just less than half a step and a range
that falls, it is at the high end; where it is the center, it rests. -/
theorem full_deflection_two_values :
    let c : Calibration :=
      { logicalMin := 0, logicalMax := 1, rangeMin := 1000, rangeMax := -1000
        deadzone := 4999, saturation := 5000, granularity := 1 }
    let c' : Calibration :=
      { logicalMin := 1, logicalMax := 2, rangeMin := 0, rangeMax := 65535
        deadzone := 0, saturation := 10000, granularity := 1 }
    ((c.logicalMin < c.logicalMax ∧ 0 ≤ c.deadzone ∧ c.deadzone < c.saturation ∧
        c.saturation ≤ 10000) ∧
      5000 < (10000 - c.deadzone.toInt) * (c.logicalMax.toInt - c.origin) ∧
      scaleAxis 1 c = -1000) ∧
    c'.origin = c'.logicalMax.toInt ∧ c'.rest = 32767 ∧ (scaleAxis 2 c').toInt = c'.rest := by
  intro c c'
  have bounds : c.logicalMin < c.logicalMax ∧ 0 ≤ c.deadzone ∧ c.deadzone < c.saturation ∧
      c.saturation ≤ 10000 := by decide
  obtain ⟨ordered, nonneg, inside, whole⟩ := bounds
  have room : 5000 < (10000 - c.deadzone.toInt) * (c.logicalMax.toInt - c.origin) := by
    rw [← c.toInt_logicalCenter]
    decide
  obtain ⟨-, -, last, -⟩ := full_deflection c ordered nonneg inside whole
  have horigin : c'.origin = c'.logicalMax.toInt := by
    rw [← c'.toInt_logicalCenter]
    decide
  have hrest : c'.rest = 32767 := by
    rw [← c'.toInt_physicalCenter]
    decide
  have apart : c'.edge .lower c'.deadzone ≠ c'.edge .lower c'.saturation := by
    rw [c'.edge_eq_divNearest, c'.edge_eq_divNearest, c'.span_eq]
    decide
  obtain ⟨-, -, -, rest⟩ :=
    full_deflection c' (by decide) (by decide) (by decide) (by decide)
  exact ⟨⟨⟨ordered, nonneg, inside, whole⟩, room, last room⟩, horigin, hrest,
    rest horigin apart⟩

/-- Not every axis reaches the high end of its range at its last logical value: of the two values
1 and 2, the greater one is the center. -/
theorem full_deflection_at_center :
    ¬ ∀ (c : Calibration) (raw : Int32), c.logicalMin < c.logicalMax → 0 ≤ c.deadzone →
      c.deadzone < c.saturation → c.saturation ≤ 10000 →
      (raw ≤ c.logicalMin → scaleAxis raw c = c.rangeMin) ∧
      (c.logicalMax ≤ raw → scaleAxis raw c = c.rangeMax) := by
  intro h
  have hend := (h
    { logicalMin := 1, logicalMax := 2, rangeMin := 0, rangeMax := 65535, deadzone := 0
      saturation := 10000, granularity := 1 } 2
    (by decide) (by decide) (by decide) (by decide)).2 (by decide)
  exact absurd hend (by decide)

end RemotePad
