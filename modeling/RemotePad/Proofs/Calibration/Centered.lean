import RemotePad.Calibration
import RemotePad.Proofs.Calibration.Rounding

/-!
# Order along a calibrated axis

A calibrated axis goes one way from the one end of its range to the other, for whatever
calibration: logical bounds in any order, dead zones and saturations that make no sense.

* `midpoint_near` and `midpoint_mem`: a center is in the middle of its range and inside it.
* `Window.place_cases`, `Window.place_toward`: each half goes from its one end to the other.
* `scaleAxis_toward` puts the two halves together, `placed_exactly` says that the words in
  between were wide enough.
-/

namespace RemotePad

/-! ## Centers -/

/-- Twice the center of a range is at most one away from the sum of its bounds. -/
theorem midpoint_near (lo hi : Int32) :
    lo.toInt + hi.toInt - 1 ≤ 2 * (midpoint lo hi).toInt ∧
      2 * (midpoint lo hi).toInt ≤ lo.toInt + hi.toInt + 1 := by
  have hlo := toInt_mem32 lo
  have hhi := toInt_mem32 hi
  unfold least32 greatest32 at hlo hhi
  unfold midpoint
  split
  · next hzero =>
    have hlo0 : lo.toInt = 0 := by
      rw [hzero]
      rfl
    rw [toInt_ofInt32 (by unfold least32; omega) (by unfold greatest32; omega), hlo0]
    omega
  · have hhalf := divNearest_two (lo.toInt + hi.toInt)
    rw [toInt_clamp32_of_mem (by unfold least32; omega) (by unfold greatest32; omega)]
    exact hhalf

/-- The center of a range lies between its bounds. -/
theorem midpoint_mem (lo hi : Int32) :
    (lo.toInt ≤ (midpoint lo hi).toInt ∧ (midpoint lo hi).toInt ≤ hi.toInt) ∨
      (hi.toInt ≤ (midpoint lo hi).toInt ∧ (midpoint lo hi).toInt ≤ lo.toInt) := by
  have hnear := midpoint_near lo hi
  omega

/-! ## Halves -/

namespace Window

/-- The way that a value strictly inside a window has gone from the one end to the other. -/
def progress (w : Window) (v : Int32) : Int :=
  divNearest ((v.toInt - w.lo.toInt) * (w.outHi.toInt - w.outLo.toInt))
    (w.hi.toInt - w.lo.toInt)

variable {w : Window} {v v' : Int32}

theorem progress_toward (hlo : w.lo.toInt < v.toInt) (hvv' : v.toInt ≤ v'.toInt)
    (hhi : v'.toInt < w.hi.toInt) :
    Toward 0 (w.outHi.toInt - w.outLo.toInt) (w.progress v) (w.progress v') :=
  share_toward _ (by omega) (by omega) (by omega) (by omega)

/-- Inside a window nothing has to be held inside any word. -/
theorem placed_exactly (hlo : w.lo.toInt < v.toInt) (hhi : v.toInt < w.hi.toInt) :
    mulDivSpan (v.toInt - w.lo.toInt) (w.outHi.toInt - w.outLo.toInt)
        (w.hi.toInt - w.lo.toInt) = w.progress v ∧
      (w.place v).toInt = w.outLo.toInt + w.progress v := by
  have hway : Toward 0 (w.hi.toInt - w.lo.toInt) (v.toInt - w.lo.toInt) (v.toInt - w.lo.toInt) :=
    Or.inl (by omega)
  obtain ⟨hspan, hplace⟩ := interpolate_exactly w.outLo w.outHi (by omega) hway
  refine ⟨hspan, ?_⟩
  have hlow : ¬ v ≤ w.lo := by
    rw [Int32.le_iff_toInt_le]
    omega
  have hhigh : ¬ w.hi ≤ v := by
    rw [Int32.le_iff_toInt_le]
    omega
  rw [place, if_neg hlow, if_neg hhigh]
  exact hplace

/-- A value rests at one end of a window, or is on the way to the other. -/
theorem place_cases (w : Window) (v : Int32) :
    (v.toInt ≤ w.lo.toInt ∧ (w.place v).toInt = w.outLo.toInt) ∨
    (w.lo.toInt < v.toInt ∧ w.hi.toInt ≤ v.toInt ∧ (w.place v).toInt = w.outHi.toInt) ∨
    (w.lo.toInt < v.toInt ∧ v.toInt < w.hi.toInt ∧
      (w.place v).toInt = w.outLo.toInt + w.progress v) := by
  by_cases hlo : v ≤ w.lo
  · refine Or.inl ⟨Int32.le_iff_toInt_le.mp hlo, ?_⟩
    rw [place, if_pos hlo]
  · have hlo' : w.lo.toInt < v.toInt := by
      rw [Int32.le_iff_toInt_le] at hlo
      omega
    refine Or.inr ?_
    by_cases hhi : w.hi ≤ v
    · refine Or.inl ⟨hlo', Int32.le_iff_toInt_le.mp hhi, ?_⟩
      rw [place, if_neg hlo, if_pos hhi]
    · have hhi' : v.toInt < w.hi.toInt := by
        rw [Int32.le_iff_toInt_le] at hhi
        omega
      exact Or.inr ⟨hlo', hhi', (placed_exactly hlo' hhi').2⟩

/-- A window goes from its one end to the other, even if its bounds have crossed. -/
theorem place_toward (w : Window) (h : v.toInt ≤ v'.toInt) :
    Toward w.outLo.toInt w.outHi.toInt (w.place v).toInt (w.place v').toInt := by
  have step := fun (hlo : w.lo.toInt < v.toInt) (hhi : v'.toInt < w.hi.toInt) =>
    progress_toward hlo h hhi
  have here := fun (u : Int32) (hlo : w.lo.toInt < u.toInt) (hhi : u.toInt < w.hi.toInt) =>
    progress_toward hlo (Int.le_refl _) hhi
  unfold Toward at step here ⊢
  rcases w.place_cases v with ⟨hv, hp⟩ | ⟨hv, hw, hp⟩ | ⟨hv, hw, hp⟩ <;>
    rcases w.place_cases v' with ⟨hv', hp'⟩ | ⟨hv', hw', hp'⟩ | ⟨hv', hw', hp'⟩
  · omega
  · omega
  · have := here v' hv' hw'
    omega
  · omega
  · omega
  · omega
  · omega
  · have := here v hv hw
    omega
  · have := step hv hw'
    omega

end Window

/-! ## Both halves -/

namespace Calibration

theorem physicalCenter_mem (c : Calibration) :
    (c.rangeMin.toInt ≤ c.physicalCenter.toInt ∧ c.physicalCenter.toInt ≤ c.rangeMax.toInt) ∨
      (c.rangeMax.toInt ≤ c.physicalCenter.toInt ∧
        c.physicalCenter.toInt ≤ c.rangeMin.toInt) :=
  midpoint_mem c.rangeMin c.rangeMax

theorem windowAt_cases (c : Calibration) (v : Int32) :
    (v.toInt ≤ 0 ∧ c.windowAt v = c.lowerWindow) ∨ (0 < v.toInt ∧ c.windowAt v = c.upperWindow) := by
  by_cases h : v ≤ 0
  · exact Or.inl ⟨Int32.le_iff_toInt_le.mp h, if_pos h⟩
  · refine Or.inr ⟨?_, if_neg h⟩
    have h0 : ¬ v.toInt ≤ (0 : Int32).toInt := fun hle => h (Int32.le_iff_toInt_le.mpr hle)
    exact Int.not_le.mp h0

end Calibration

/-- The whole axis goes from the one end of its range to the other. -/
theorem scaleAxis_toward (c : Calibration) {raw raw' : Int32} (h : raw.toInt ≤ raw'.toInt) :
    Toward c.rangeMin.toInt c.rangeMax.toInt (scaleAxis raw c).toInt (scaleAxis raw' c).toInt := by
  have hcenter := c.physicalCenter_mem
  have hdeflection : (c.deflection raw).toInt ≤ (c.deflection raw').toInt :=
    satSub32_mono c.logicalCenter h
  have lower := c.lowerWindow.place_toward hdeflection
  have upper := c.upperWindow.place_toward hdeflection
  unfold scaleAxis
  simp only [Calibration.lowerWindow, Calibration.upperWindow, Toward] at lower upper ⊢
  rcases c.windowAt_cases (c.deflection raw) with ⟨hv, hw⟩ | ⟨hv, hw⟩ <;>
    rcases c.windowAt_cases (c.deflection raw') with ⟨hv', hw'⟩ | ⟨hv', hw'⟩ <;>
    rw [hw, hw'] <;> simp only [Calibration.lowerWindow, Calibration.upperWindow]
  · omega
  · -- the lower half ends where the upper one begins
    omega
  · omega
  · omega

end RemotePad
