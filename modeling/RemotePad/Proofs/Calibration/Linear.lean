import RemotePad.Proofs.Calibration.Checked
import RemotePad.Proofs.Calibration.Halves

/-!
# The linear mapping

Between the logical bounds the linear mapping is the straight line through the ends of both
ranges, rounded once.  Each of the two ranges may run up or down.

* `Between`: the words between two bounds, in whichever order these come.
* `toInt_scaleLinear` and `checkedScaleLinear?_eq`: no word is too small between the bounds.
* `scaleLinear_along_line`: ends, hull, distance from the exact line, and direction.
* `scaleLinear_undone`: with the ranges exchanged the mapping leads back, if the physical range is
  at least as wide as the logical one.
-/

namespace RemotePad

/-! ## Between the bounds -/

/-- A word lies between two others or is one of them, whichever is the greater one. -/
def Between (a b v : Int32) : Prop :=
  (a ≤ v ∧ v ≤ b) ∨ (b ≤ v ∧ v ≤ a)

instance (a b v : Int32) : Decidable (Between a b v) :=
  inferInstanceAs (Decidable ((a ≤ v ∧ v ≤ b) ∨ (b ≤ v ∧ v ≤ a)))

theorem between_iff {a b v : Int32} :
    Between a b v ↔ Toward a.toInt b.toInt v.toInt v.toInt := by
  unfold Between Toward
  simp only [Int32.le_iff_toInt_le, Int.le_refl, true_and]

theorem between_left (a b : Int32) : Between a b a := by
  rw [between_iff]
  unfold Toward
  omega

theorem between_right (a b : Int32) : Between a b b := by
  rw [between_iff]
  unfold Toward
  omega

/-- The ways that words between two bounds have gone from the first bound. -/
theorem Between.way {a b v : Int32} (h : Between a b v) :
    Toward 0 (b.toInt - a.toInt) (v.toInt - a.toInt) (v.toInt - a.toInt) := by
  rw [between_iff] at h
  unfold Toward at h ⊢
  omega

namespace Calibration

/-- The whole of both ranges as one window. -/
def wholeWindow (c : Calibration) : Window where
  lo := c.logicalMin
  hi := c.logicalMax
  outLo := c.rangeMin
  outHi := c.rangeMax

/-- The logical and the physical range in each other's place. -/
def exchanged (c : Calibration) : Calibration :=
  { c with
    logicalMin := c.rangeMin
    logicalMax := c.rangeMax
    rangeMin := c.logicalMin
    rangeMax := c.logicalMax }

end Calibration

/-- The linear mapping in words of fixed width. -/
def checkedScaleLinear? (raw : Int32) (c : Calibration) : Option Int32 :=
  checkedLine? c.logicalMin c.logicalMax c.rangeMin c.rangeMax raw

section Inside

variable {c : Calibration} (apart : c.logicalMin ≠ c.logicalMax)
include apart

theorem logical_width_ne_zero : c.logicalMax.toInt - c.logicalMin.toInt ≠ 0 := by
  intro hzero
  exact apart (Int32.toInt_inj.mp (by omega))

variable {raw raw' : Int32}

theorem checkedScaleLinear?_eq (inside : Between c.logicalMin c.logicalMax raw) :
    checkedScaleLinear? raw c = some (scaleLinear raw c) :=
  checkedLine?_eq c.rangeMin c.rangeMax (logical_width_ne_zero apart) inside.way

/-- Between the bounds neither the way nor the place that it leads to is held in a word. -/
theorem toInt_scaleLinear (inside : Between c.logicalMin c.logicalMax raw) :
    (scaleLinear raw c).toInt = c.rangeMin.toInt + c.wholeWindow.progress raw :=
  (interpolate_exactly c.rangeMin c.rangeMax (logical_width_ne_zero apart) inside.way).2

theorem scaleLinear_logicalMin : scaleLinear c.logicalMin c = c.rangeMin := by
  have hstart : c.wholeWindow.progress c.logicalMin = 0 :=
    Window.progress_lo (logical_width_ne_zero apart)
  rw [← Int32.toInt_inj, toInt_scaleLinear apart (between_left _ _), hstart, Int.add_zero]

theorem scaleLinear_logicalMax : scaleLinear c.logicalMax c = c.rangeMax := by
  have hend : c.wholeWindow.progress c.logicalMax = c.rangeMax.toInt - c.rangeMin.toInt :=
    Window.progress_hi (logical_width_ne_zero apart)
  rw [← Int32.toInt_inj, toInt_scaleLinear apart (between_right _ _), hend]
  omega

/-- Raw values that one meets in turn have their physical values in turn. -/
theorem scaleLinear_toward
    (h : Toward c.logicalMin.toInt c.logicalMax.toInt raw.toInt raw'.toInt) :
    Toward c.rangeMin.toInt c.rangeMax.toInt (scaleLinear raw c).toInt
      (scaleLinear raw' c).toInt := by
  have inside : Between c.logicalMin c.logicalMax raw := by
    rw [between_iff]
    unfold Toward at h ⊢
    omega
  have inside' : Between c.logicalMin c.logicalMax raw' := by
    rw [between_iff]
    unfold Toward at h ⊢
    omega
  have hways : Toward 0 (c.logicalMax.toInt - c.logicalMin.toInt) (raw.toInt - c.logicalMin.toInt)
      (raw'.toInt - c.logicalMin.toInt) := by
    unfold Toward at h ⊢
    omega
  have hprogress : Toward 0 (c.rangeMax.toInt - c.rangeMin.toInt) (c.wholeWindow.progress raw)
      (c.wholeWindow.progress raw') := share_along _ (logical_width_ne_zero apart) hways
  rw [toInt_scaleLinear apart inside, toInt_scaleLinear apart inside']
  unfold Toward at hprogress ⊢
  omega

theorem scaleLinear_between (inside : Between c.logicalMin c.logicalMax raw) :
    Between c.rangeMin c.rangeMax (scaleLinear raw c) := by
  rw [between_iff] at inside ⊢
  exact scaleLinear_toward apart inside

/-- Of two raw values the smaller one is met first if the logical range runs up, and the greater
one if it runs down. -/
theorem scaleLinear_turns (inside : Between c.logicalMin c.logicalMax raw)
    (inside' : Between c.logicalMin c.logicalMax raw') (h : raw.toInt ≤ raw'.toInt) :
    (0 < c.logicalMax.toInt - c.logicalMin.toInt ∧
      Toward c.rangeMin.toInt c.rangeMax.toInt (scaleLinear raw c).toInt
        (scaleLinear raw' c).toInt) ∨
    (c.logicalMax.toInt - c.logicalMin.toInt < 0 ∧
      Toward c.rangeMin.toInt c.rangeMax.toInt (scaleLinear raw' c).toInt
        (scaleLinear raw c).toInt) := by
  rw [between_iff] at inside inside'
  unfold Toward at inside inside'
  rcases Int.lt_or_gt_of_ne (logical_width_ne_zero apart) with hdown | hup
  · exact Or.inr ⟨hdown, scaleLinear_toward apart (by unfold Toward; omega)⟩
  · exact Or.inl ⟨hup, scaleLinear_toward apart (by unfold Toward; omega)⟩

end Inside

/-! ## The line -/

/-- The linear mapping between two different logical bounds, whatever the physical range:

* No word is too small for it, it stays between the ends of the physical range, and it is at most
  one half away from the exact straight line through both ends.
* Each end of the logical range is mapped to its end of the physical one.
* It rises if both ranges run the same way, and falls if they do not. -/
theorem scaleLinear_along_line (c : Calibration) (apart : c.logicalMin ≠ c.logicalMax) :
    (∀ raw, Between c.logicalMin c.logicalMax raw →
      checkedScaleLinear? raw c = some (scaleLinear raw c) ∧
      Between c.rangeMin c.rangeMax (scaleLinear raw c) ∧
      |((scaleLinear raw c).toInt : ℚ) -
        lineThrough c.logicalMin.toInt c.rangeMin.toInt c.logicalMax.toInt c.rangeMax.toInt
          raw.toInt| ≤ 1 / 2) ∧
    (scaleLinear c.logicalMin c = c.rangeMin ∧ scaleLinear c.logicalMax c = c.rangeMax) ∧
    ∀ raw raw', Between c.logicalMin c.logicalMax raw → Between c.logicalMin c.logicalMax raw' →
      raw ≤ raw' →
      (0 ≤ (c.logicalMax.toInt - c.logicalMin.toInt) * (c.rangeMax.toInt - c.rangeMin.toInt) →
        scaleLinear raw c ≤ scaleLinear raw' c) ∧
      ((c.logicalMax.toInt - c.logicalMin.toInt) * (c.rangeMax.toInt - c.rangeMin.toInt) ≤ 0 →
        scaleLinear raw' c ≤ scaleLinear raw c) := by
  refine ⟨fun raw inside => ⟨checkedScaleLinear?_eq apart inside, scaleLinear_between apart inside,
    ?line⟩, ⟨scaleLinear_logicalMin apart, scaleLinear_logicalMax apart⟩,
    fun raw raw' inside inside' h => ?direction⟩
  case line =>
    rw [toInt_scaleLinear apart inside]
    exact c.wholeWindow.progress_on_line raw
  case direction =>
    simp only [Int32.le_iff_toInt_le] at h ⊢
    rcases scaleLinear_turns apart inside inside' h with ⟨hup, hturns⟩ | ⟨hdown, hturns⟩
    · refine ⟨fun same => ?_, fun other => ?_⟩
      · have hrange := nonneg_of_mul_nonneg_right same hup
        unfold Toward at hturns
        omega
      · have hrange := nonpos_of_mul_nonpos_right other hup
        unfold Toward at hturns
        omega
    · refine ⟨fun same => ?_, fun other => ?_⟩
      · have hrange := nonpos_of_mul_nonneg_right same hdown
        unfold Toward at hturns
        omega
      · have hrange := nonneg_of_mul_nonpos_right other hdown
        unfold Toward at hturns
        omega

/-- A logical range over all 32-bit integers that runs down, and a physical one that runs up. -/
theorem scaleLinear_along_line_falling :
    let c : Calibration :=
      { logicalMin := 2147483647, logicalMax := -2147483648, rangeMin := -2147483648
        rangeMax := 2147483647, deadzone := 0, saturation := 10000, granularity := 1 }
    c.logicalMin ≠ c.logicalMax ∧
    (Between c.logicalMin c.logicalMax (-5) ∧ Between c.logicalMin c.logicalMax 70000) ∧
    (c.logicalMax.toInt - c.logicalMin.toInt) * (c.rangeMax.toInt - c.rangeMin.toInt) ≤ 0 ∧
    scaleLinear c.logicalMax c = c.rangeMax ∧
    checkedScaleLinear? (-5) c = some (scaleLinear (-5) c) ∧
    scaleLinear 70000 c ≤ scaleLinear (-5) c := by
  intro c
  have apart : c.logicalMin ≠ c.logicalMax := by decide
  have low : Between c.logicalMin c.logicalMax (-5) := by decide
  have high : Between c.logicalMin c.logicalMax 70000 := by decide
  have opposite : (c.logicalMax.toInt - c.logicalMin.toInt) *
      (c.rangeMax.toInt - c.rangeMin.toInt) ≤ 0 := by decide
  obtain ⟨placed, ⟨-, reached⟩, directed⟩ := scaleLinear_along_line c apart
  exact ⟨apart, ⟨low, high⟩, opposite, reached, (placed _ low).1,
    (directed _ _ low high (by decide)).2 opposite⟩

/-! ## The way back -/

/-- With at least as many physical steps as logical ones, exchanging the ranges undoes the linear
mapping. -/
theorem scaleLinear_undone (c : Calibration) (apart : c.logicalMin ≠ c.logicalMax)
    (wide : |c.logicalMax.toInt - c.logicalMin.toInt| ≤ |c.rangeMax.toInt - c.rangeMin.toInt|)
    {raw : Int32} (inside : Between c.logicalMin c.logicalMax raw) :
    scaleLinear (scaleLinear raw c) c.exchanged = raw := by
  have hwidth := logical_width_ne_zero apart
  have apart' : c.rangeMin ≠ c.rangeMax := by
    -- a physical range without any width would be the narrower one
    intro hsame
    rw [hsame, Int.sub_self, abs_zero] at wide
    exact hwidth (abs_nonpos_iff.mp wide)
  have there := toInt_scaleLinear apart inside
  have back := toInt_scaleLinear (c := c.exchanged) apart' (scaleLinear_between apart inside)
  have hfound : c.exchanged.wholeWindow.progress (scaleLinear raw c) =
      raw.toInt - c.logicalMin.toInt := by
    unfold Window.progress
    simp only [Calibration.wholeWindow, Calibration.exchanged]
    rw [there, add_sub_cancel_left]
    exact divNearest_divNearest_mul _ hwidth wide
  rw [← Int32.toInt_inj, back, hfound]
  exact add_sub_cancel _ _

/-- All but one of the 32-bit integers, spread downwards over all of them. -/
theorem scaleLinear_undone_one_step_wider :
    let c : Calibration :=
      { logicalMin := -2147483648, logicalMax := 2147483646, rangeMin := 2147483647
        rangeMax := -2147483648, deadzone := 0, saturation := 10000, granularity := 1 }
    (c.logicalMin ≠ c.logicalMax ∧
      |c.logicalMax.toInt - c.logicalMin.toInt| ≤ |c.rangeMax.toInt - c.rangeMin.toInt| ∧
      Between c.logicalMin c.logicalMax 12345) ∧
    scaleLinear 12345 c = -12347 ∧ scaleLinear (-12347) c.exchanged = 12345 := by
  intro c
  have apart : c.logicalMin ≠ c.logicalMax := by decide
  have wide : |c.logicalMax.toInt - c.logicalMin.toInt| ≤
      |c.rangeMax.toInt - c.rangeMin.toInt| := by decide
  have inside : Between c.logicalMin c.logicalMax 12345 := by decide
  have there : scaleLinear 12345 c = -12347 := by decide
  have back := scaleLinear_undone c apart wide inside
  rw [there] at back
  exact ⟨⟨apart, wide, inside⟩, there, back⟩

end RemotePad
