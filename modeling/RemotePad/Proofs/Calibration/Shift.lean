import Mathlib.Data.Set.Function
import RemotePad.Proofs.Calibration.Checked
import RemotePad.Proofs.Calibration.Resolution

/-!
# Axes that are only shifted

Where a half of an axis has as many physical steps as logical ones, nothing is rounded on it: its
values are moved by one and the same distance.  If this is so of both halves, and they are moved
alike, the axis as a whole is shifted and held between its ends.

* `Window.place_of_even`: a window that rises by its width.
* `scaleAxis_of_even`: an axis with two such halves.
* `scaleAxis_axisDefault`: the sticks of a device that nobody calibrated.
-/

namespace RemotePad

/-- A window that rises by its width moves all values alike, and holds them between its ends. -/
theorem Window.place_of_even {w : Window} (wide : w.lo.toInt ≤ w.hi.toInt)
    (even : w.outHi.toInt - w.outLo.toInt = w.hi.toInt - w.lo.toInt) (v : Int32) :
    (w.place v).toInt =
      max w.outLo.toInt (min (w.outLo.toInt + (v.toInt - w.lo.toInt)) w.outHi.toInt) := by
  rcases w.place_cases v with ⟨hv, hplace⟩ | ⟨hlo, hv, hplace⟩ | ⟨hlo, hhi, hplace⟩
  · omega
  · omega
  · have hprogress : w.progress v = v.toInt - w.lo.toInt := by
      rw [progress, even]
      exact divNearest_mul_cancel _ (by omega)
    omega

/-- A deflection that is held in 32 bits is beyond the end of its half all the same. -/
theorem Calibration.deflection_cases {c : Calibration}
    (ordered : c.logicalMin.toInt < c.logicalMax.toInt)
    (narrow : c.logicalMax.toInt - c.logicalMin.toInt < 4294967295) (raw : Int32) :
    (c.deflection raw).toInt = raw.toInt - c.origin ∨
    (raw.toInt ≤ c.logicalMin.toInt ∧
      (c.deflection raw).toInt ≤ c.logicalMin.toInt - c.origin) ∨
    (c.logicalMax.toInt ≤ raw.toInt ∧
      c.logicalMax.toInt - c.origin ≤ (c.deflection raw).toInt) := by
  have hmin := held32_offset narrow (Int.le_refl _) ordered.le
  have hmax := held32_offset narrow ordered.le (Int.le_refl _)
  rw [c.toInt_deflection raw]
  rcases Int.le_total raw.toInt c.logicalMin.toInt with hlow | hlow
  · have hbelow := held32_mono (Int.sub_le_sub_right hlow c.origin)
    exact Or.inr (Or.inl ⟨hlow, hmin ▸ hbelow⟩)
  · rcases Int.le_total c.logicalMax.toInt raw.toInt with hhigh | hhigh
    · have habove := held32_mono (Int.sub_le_sub_right hhigh c.origin)
      exact Or.inr (Or.inr ⟨hhigh, hmax ▸ habove⟩)
    · exact Or.inl (held32_offset narrow hlow hhigh)

/-- An axis whose halves have as many physical steps as logical ones is shifted. -/
theorem scaleAxis_of_even {c : Calibration} (ordered : c.logicalMin.toInt < c.logicalMax.toInt)
    (narrow : c.logicalMax.toInt - c.logicalMin.toInt < 4294967295)
    (awake : c.deadzone = 0) (whole : c.saturation = 10000)
    (lower : c.rest - c.rangeMin.toInt = c.origin - c.logicalMin.toInt)
    (upper : c.rangeMax.toInt - c.rest = c.logicalMax.toInt - c.origin) (raw : Int32) :
    (scaleAxis raw c).toInt =
      max c.rangeMin.toInt (min (c.rangeMin.toInt + (raw.toInt - c.logicalMin.toInt))
        c.rangeMax.toInt) := by
  obtain ⟨hlower, hlowerEnd⟩ := Calibration.lowerWindow_bounds ordered narrow awake whole
  obtain ⟨hupper, hupperEnd⟩ := Calibration.upperWindow_bounds ordered narrow awake whole
  have horigin := Calibration.origin_mem ordered
  have hrest := c.toInt_physicalCenter
  have hv := Calibration.deflection_cases ordered narrow raw
  unfold scaleAxis
  rcases c.windowAt_cases (c.deflection raw) with ⟨hlow, hwindow⟩ | ⟨hhigh, hwindow⟩ <;>
    rw [hwindow]
  · rw [c.lowerWindow.place_of_even (by omega)
      (by rw [hlower, hlowerEnd]; simp only [Calibration.lowerWindow]; omega), hlower]
    simp only [Calibration.lowerWindow]
    rcases hv with hv | ⟨hout, hv⟩ | ⟨hout, hv⟩ <;> omega
  · rw [c.upperWindow.place_of_even (by omega)
      (by rw [hupper, hupperEnd]; simp only [Calibration.upperWindow]; omega), hupper]
    simp only [Calibration.upperWindow]
    rcases hv with hv | ⟨hout, hv⟩ | ⟨hout, hv⟩ <;> omega

/-- The default calibration shifts by 32768: both of its centers are rounded down, to -1 and to
32767. -/
theorem toInt_scaleAxis_axisDefault (raw : Int32) :
    (scaleAxis raw .axisDefault).toInt = max 0 (min (raw.toInt + 32768) 65535) := by
  have horigin : Calibration.axisDefault.origin = -1 := by
    rw [← Calibration.toInt_logicalCenter]
    decide
  have hrest : Calibration.axisDefault.rest = 32767 := by
    rw [← Calibration.toInt_physicalCenter]
    decide
  have hshift := scaleAxis_of_even (c := .axisDefault) (by decide) (by decide) rfl rfl
    (by rw [horigin, hrest]; decide) (by rw [horigin, hrest]; decide) raw
  have hmin : Calibration.axisDefault.rangeMin.toInt = 0 := rfl
  have hmax : Calibration.axisDefault.rangeMax.toInt = 65535 := rfl
  have hlow : Calibration.axisDefault.logicalMin.toInt = -32768 := rfl
  rw [hmin, hmax, hlow] at hshift
  omega

/-- The reported value of a stick without a calibration of its own. -/
def stickValue (s : Int16) : Int :=
  (scaleAxis s.toInt32 .axisDefault).toInt

theorem stickValue_eq (s : Int16) : stickValue s = s.toInt + 32768 := by
  have hlo := s.le_toInt
  have hhi := s.toInt_lt
  rw [stickValue, toInt_scaleAxis_axisDefault, Int16.toInt_toInt32]
  omega

/-- The stick that a reported value comes from. -/
def stickOf (value : Int) : Int16 :=
  Int16.ofInt (value - 32768)

/-- The values between the ends of an axis without a calibration of its own. -/
def reportedValues : Set Int :=
  {value | 0 ≤ value ∧ value ≤ 65535}

theorem stickValue_invOn : Set.InvOn stickOf stickValue Set.univ reportedValues where
  left := fun s _ => by
    rw [stickOf, stickValue_eq, Int.add_sub_cancel]
    exact Int16.ofInt_toInt s
  right := fun value inside => by
    obtain ⟨low, high⟩ := inside
    rw [stickValue_eq, stickOf, Int16.toInt_ofInt_of_le (by omega) (by omega)]
    omega

/-- The default calibration over all raw values: the exact sum with 32768, held between 0 and
65535.  No step of it leaves its word, and both halves have the same value where they meet.  Of
the values of a stick none is held, so each reported value comes from exactly one of them, the one
32768 less. -/
theorem scaleAxis_axisDefault :
    (∀ raw, (scaleAxis raw .axisDefault).toInt = max 0 (min (raw.toInt + 32768) 65535)) ∧
    (∀ raw, checkedScaleAxis? raw .axisDefault = some (scaleAxis raw .axisDefault)) ∧
    Calibration.axisDefault.lowerWindow.place 0 = Calibration.axisDefault.upperWindow.place 0 ∧
    (∀ s, stickValue s = s.toInt + 32768) ∧
    Set.BijOn stickValue Set.univ reportedValues ∧
    Set.InvOn stickOf stickValue Set.univ reportedValues := by
  have inverse := stickValue_invOn
  have inside : Set.MapsTo stickValue Set.univ reportedValues := fun s _ => by
    have hlo := s.le_toInt
    have hhi := s.toInt_lt
    rw [stickValue_eq]
    exact ⟨by omega, by omega⟩
  exact ⟨toInt_scaleAxis_axisDefault, fun raw => checkedScaleAxis?_eq raw .axisDefault, by decide,
    stickValue_eq, inverse.bijOn inside (Set.mapsTo_univ _ _), inverse⟩

end RemotePad
