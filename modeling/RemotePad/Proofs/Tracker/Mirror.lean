import RemotePad.Proofs.Tracker.Run

/-!
# What the joystick record shows

A tracker writes a cell of its joystick record only when the raw value behind the cell
differs from the last one.  So a cell *follows* its raw value: it stands at its initial
value as long as the raw value has never left zero, and from then on it is the image of
the latest raw value.

* `follow` is that rule for one cell, `foldl_follow` what it comes to over a run.
* `hatCell_observe` and `stickCell_observe`: the direction cell and the four stick cells
  follow the hat and the sticks; no other part of an observation touches them.
* `joy_after_samples`: the record after any run from a fresh tracker.  It mirrors the
  last sample in every field that was ever away from zero;
  `joy_misses_resting_sample` shows that the fields still at zero are not mirrored.
-/

namespace RemotePad

/-! ## Cells that follow a raw value -/

/-- A raw value and its cell after the next raw value: an equal one leaves both alone,
any other one is stored and its image is written. -/
def follow {α β : Type} [DecidableEq α] (f : α → β) (state : α × β) (v : α) : α × β :=
  if v = state.1 then state else (v, f v)

section Follow

variable {α β : Type} [DecidableEq α] (f : α → β)

/-- A cell that shows its raw value goes on showing it. -/
theorem foldl_follow_synced (vs : List α) (r : α) :
    vs.foldl (follow f) (r, f r) = (vs.getLastD r, f (vs.getLastD r)) := by
  induction vs generalizing r with
  | nil => rfl
  | cons v rest ih =>
    rw [List.foldl_cons, List.getLastD_cons, ← ih v]
    by_cases hv : v = r
    · simp only [follow, hv, if_true]
    · simp only [follow, hv, if_false]

/-- A cell keeps its first value until the raw value leaves its own first value. -/
theorem foldl_follow (vs : List α) (r : α) (c : β) :
    vs.foldl (follow f) (r, c) =
      (vs.getLastD r, if ∀ v ∈ vs, v = r then c else f (vs.getLastD r)) := by
  induction vs with
  | nil => simp
  | cons v rest ih =>
    rw [List.foldl_cons, List.getLastD_cons]
    by_cases hv : v = r
    · subst hv
      simp only [follow, if_true, ih, List.forall_mem_cons, true_and]
    · have hmoved : ¬ ∀ x ∈ v :: rest, x = r := fun h => hv (h v List.mem_cons_self)
      simp only [follow, hv, if_false, foldl_follow_synced, hmoved]

/-- The cell after a run that ends with `x`. -/
theorem foldl_follow_snoc {γ : Type} (g : γ → α) (xs : List γ) (x : γ) (r : α) (c : β) :
    ((xs ++ [x]).map g).foldl (follow f) (r, c) =
      (g x, if ∀ y ∈ xs ++ [x], g y = r then c else f (g x)) := by
  have hlast : ((xs ++ [x]).map g).getLastD r = g x := by simp
  simp only [foldl_follow, hlast, List.forall_mem_map]

end Follow

/-! ## The cells of the sticks -/

/-- The axis of the joystick record that a stick drives. -/
def Layout.stickCell : Layout → Stick → AxisType
  | _, .lx => .x
  | _, .ly => .y
  | .standard, .rx => .z
  | .standard, .ry => .rz
  | .extended, .rx => .rx
  | .extended, .ry => .ry

/-- The place of that axis in the record; x, y, z, rx, ry and rz follow one another. -/
def Layout.stickPlace : Layout → Stick → Nat
  | _, .lx => 0
  | _, .ly => 1
  | .standard, .rx => 2
  | .standard, .ry => 5
  | .extended, .rx => 3
  | .extended, .ry => 4

theorem Layout.slot_stickCell (l : Layout) (k : Stick) :
    (l.stickCell k).slot.val = l.stickPlace k := by
  cases l <;> cases k <;> rfl

theorem Layout.stickCell_inj {l : Layout} {k j : Stick} (h : l.stickCell k = l.stickCell j) :
    k = j := by
  revert h
  cases l <;> cases k <;> cases j <;> decide

/-- The axis number of a stick is its place in the object table. -/
theorem Layout.indexOf_stickAxis (l : Layout) (k : Stick) :
    l.indexOf (.axis (l.stickAxis k)) = some (l.stickAxis k).toNat := by
  cases l <;> cases k <;> rfl

/-- The row at that place names the cell. -/
theorem Layout.axis_objects_stickAxis (l : Layout) (k : Stick) :
    l.objects[(l.stickAxis k).toNat]?.bind ObjectDescriptor.axis = some (l.stickCell k) := by
  cases l <;> cases k <;> rfl

/-- A stick position and the cell it drives. -/
def Tracker.stickCell (l : Layout) (k : Stick) (t : Tracker) : Int16 × Int32 :=
  (t.last.stick k, t.joy.axes[(l.stickCell k).slot])

/-- The hat and the first direction cell. -/
def Tracker.hatCell (t : Tracker) : Int8 × Int32 :=
  (t.last.hat, t.joy.pov.get 0)

theorem Tracker.stickCell_fresh (l : Layout) (k : Stick) : stickCell l k {} = (0, 0) := by
  cases l <;> cases k <;> rfl

theorem Tracker.hatCell_fresh : hatCell {} = (0, hatCentered) := rfl

/-! ## What the stages write -/

theorem JoyState.axes_setAxis_self (j : JoyState) (a : AxisType) (v : Int32) :
    (j.setAxis a v).axes[a.slot] = v := by
  simp [JoyState.setAxis]

theorem JoyState.axes_setAxis_ne (j : JoyState) {a b : AxisType} (h : a ≠ b) (v : Int32) :
    (j.setAxis a v).axes[b.slot] = j.axes[b.slot] := by
  have hslot : a.slot.val ≠ b.slot.val := fun hs => h (AxisType.slot_inj (Fin.ext hs))
  simp [JoyState.setAxis, hslot]

theorem Sample.stick_setStick_self (x : Sample) (k : Stick) (v : Int16) :
    (x.setStick v k).stick k = v := by
  cases k <;> rfl

theorem Sample.stick_setStick_ne (x : Sample) {k j : Stick} (h : k ≠ j) (v : Int16) :
    (x.setStick v k).stick j = x.stick j := by
  revert h
  cases k <;> cases j <;> first | (intro h; exact absurd rfl h) | (intro _; rfl)

theorem Sample.hat_setStick (x : Sample) (k : Stick) (v : Int16) :
    (x.setStick v k).hat = x.hat := by
  cases k <;> rfl

/-- A stick position that moved is written to the cell that it drives. -/
theorem reportAxis_stickAxis (l : Layout) (table : CalibrationTable) (k : Stick) (raw : Int32)
    (t : Tracker) :
    (reportAxis l table (l.stickAxis k) raw t).1 =
      ⟨t.last, t.joy.setAxis (l.stickCell k)
        (scaleAxis raw (calibrationAt table (l.stickAxis k).toNat))⟩ := by
  simp only [reportAxis, l.indexOf_stickAxis k, l.axis_objects_stickAxis k]

/-- The triggers are written to the third cell. -/
theorem reportAxis_trigger (table : CalibrationTable) (raw : Int32) (t : Tracker) :
    (reportAxis .extended table 2 raw t).1 =
      ⟨t.last, t.joy.setAxis .z (scaleAxis raw (calibrationAt table 2))⟩ := rfl

/-- Buttons have cells of their own. -/
theorem reportButtons_frame (l : Layout) (x : Sample) (bits : List UInt8) (joy : JoyState) :
    (reportButtons l x bits joy).1.axes = joy.axes ∧
      (reportButtons l x bits joy).1.pov = joy.pov := by
  induction bits generalizing joy with
  | nil => exact ⟨rfl, rfl⟩
  | cons bit rest ih =>
    unfold reportButtons
    split
    · exact ih joy
    · exact ih _

/-! ## What an observation does to a cell -/

namespace Tracker

theorem stickCell_stickStage_self (l : Layout) (table : CalibrationTable) (x : Sample) (k : Stick)
    (t : Tracker) :
    stickCell l k (stickStage l table x k t).1 =
      follow (fun v => scaleAxis v.toInt32 (calibrationAt table (l.stickAxis k).toNat))
        (stickCell l k t) (x.stick k) := by
  unfold stickStage
  by_cases hx : x.stick k = t.last.stick k
  · simp only [hx, if_true, stickCell, follow]
  · simp only [hx, if_false, reportAxis_stickAxis, stickCell, follow,
      Sample.stick_setStick_self, JoyState.axes_setAxis_self]

theorem stickCell_stickStage_ne (l : Layout) (table : CalibrationTable) (x : Sample) {k j : Stick}
    (h : k ≠ j) (t : Tracker) :
    stickCell l j (stickStage l table x k t).1 = stickCell l j t := by
  have hcell : l.stickCell k ≠ l.stickCell j := fun hc => h (Layout.stickCell_inj hc)
  unfold stickStage
  by_cases hx : x.stick k = t.last.stick k
  · simp only [hx, if_true]
  · simp only [hx, if_false, reportAxis_stickAxis, stickCell, Sample.stick_setStick_ne _ h,
      JoyState.axes_setAxis_ne _ hcell]

theorem hatCell_stickStage (l : Layout) (table : CalibrationTable) (x : Sample) (k : Stick)
    (t : Tracker) : hatCell (stickStage l table x k t).1 = hatCell t := by
  unfold stickStage
  by_cases hx : x.stick k = t.last.stick k
  · simp only [hx, if_true]
  · simp only [hx, if_false, reportAxis_stickAxis, hatCell, Sample.hat_setStick, JoyState.setAxis]

/-- The triggers drive an axis that no stick of their layout drives. -/
theorem stickCell_triggerStage (l : Layout) (table : CalibrationTable) (x : Sample) (k : Stick)
    (t : Tracker) : stickCell l k (triggerStage l table x t).1 = stickCell l k t := by
  unfold triggerStage
  split
  · next h =>
    obtain ⟨rfl, _⟩ := h
    have hcell : AxisType.z ≠ Layout.extended.stickCell k := by cases k <;> decide
    have hstick : ({ t.last with lz := x.lz, rz := x.rz } : Sample).stick k = t.last.stick k := by
      cases k <;> rfl
    rw [reportAxis_trigger]
    simp only [stickCell, hstick, JoyState.axes_setAxis_ne _ hcell]
  · rfl

theorem hatCell_triggerStage (l : Layout) (table : CalibrationTable) (x : Sample) (t : Tracker) :
    hatCell (triggerStage l table x t).1 = hatCell t := by
  unfold triggerStage
  split
  · next h =>
    obtain ⟨rfl, _⟩ := h
    rfl
  · rfl

theorem stickCell_buttonStage (l : Layout) (x : Sample) (k : Stick) (t : Tracker) :
    stickCell l k (buttonStage l x t).1 = stickCell l k t := by
  unfold buttonStage
  split
  · rfl
  · have hstick : ({ t.last with buttons := x.buttons } : Sample).stick k = t.last.stick k := by
      cases k <;> rfl
    simp only [stickCell, hstick, (reportButtons_frame l x l.buttonBits t.joy).1]

theorem hatCell_buttonStage (l : Layout) (x : Sample) (t : Tracker) :
    hatCell (buttonStage l x t).1 = hatCell t := by
  unfold buttonStage
  split
  · rfl
  · simp only [hatCell, (reportButtons_frame l x l.buttonBits t.joy).2]

theorem stickCell_hatStage (l : Layout) (x : Sample) (k : Stick) (t : Tracker) :
    stickCell l k (hatStage l x t).1 = stickCell l k t := by
  unfold hatStage
  split
  · rfl
  · cases k <;> rfl

theorem hatCell_hatStage (l : Layout) (x : Sample) (t : Tracker) :
    hatCell (hatStage l x t).1 = follow hatValue (hatCell t) x.hat := by
  unfold hatStage
  by_cases hx : x.hat = t.last.hat
  · simp only [hx, if_true, hatCell, follow]
  · simp only [hx, if_false, hatCell, follow, JoyState.setPov]
    exact congrArg (Prod.mk x.hat) (Vector.getElem_set_self _)

/-- Each stick cell follows its stick. -/
theorem stickCell_observe (l : Layout) (table : CalibrationTable) (x : Sample) (k : Stick)
    (t : Tracker) :
    stickCell l k (observe l table x t).1 =
      follow (fun v => scaleAxis v.toInt32 (calibrationAt table (l.stickAxis k).toNat))
        (stickCell l k t) (x.stick k) := by
  simp only [observe, Stage.andThen, stickCell_hatStage, stickCell_buttonStage,
    stickCell_triggerStage]
  -- one of the four stick stages is the stick's own, the other three pass it by
  cases k <;>
    simp only [ne_eq, reduceCtorEq, not_false_eq_true, stickCell_stickStage_ne,
      stickCell_stickStage_self]

/-- The first direction cell follows the hat. -/
theorem hatCell_observe (l : Layout) (table : CalibrationTable) (x : Sample) (t : Tracker) :
    hatCell (observe l table x t).1 = follow hatValue (hatCell t) x.hat := by
  simp only [observe, Stage.andThen, hatCell_hatStage, hatCell_buttonStage, hatCell_triggerStage,
    hatCell_stickStage]

/-! ## Runs -/

variable {σ : Type} (next : σ → UInt64 × σ)

theorem stickCell_applyAll (l : Layout) (table : CalibrationTable) (k : Stick)
    (xs : List Sample) (t : Tracker) (s : σ) :
    stickCell l k (applyAll next (l.observations table xs) t s).1 =
      (xs.map (Sample.stick · k)).foldl
        (follow fun v => scaleAxis v.toInt32 (calibrationAt table (l.stickAxis k).toNat))
        (stickCell l k t) := by
  induction xs generalizing t s with
  | nil => rfl
  | cons x rest ih =>
    rw [List.map_cons, List.foldl_cons, ← stickCell_observe l table x k t]
    exact ih _ _

theorem hatCell_applyAll (l : Layout) (table : CalibrationTable) (xs : List Sample) (t : Tracker)
    (s : σ) :
    hatCell (applyAll next (l.observations table xs) t s).1 =
      (xs.map Sample.hat).foldl (follow hatValue) (hatCell t) := by
  induction xs generalizing t s with
  | nil => rfl
  | cons x rest ih =>
    rw [List.map_cons, List.foldl_cons, ← hatCell_observe l table x t]
    exact ih _ _

end Tracker

/-- The joystick record after samples `before` and `final`, from a fresh tracker.  The
first direction cell and the axis cell of each stick mirror the final sample once the
raw value behind them was away from zero; until then they show no direction and zero.  An
axis has the calibration in its row, and the default one where none is listed. -/
theorem joy_after_samples {σ : Type} (next : σ → UInt64 × σ) (s : σ) (l : Layout)
    (table : CalibrationTable) (before : List Sample) (final : Sample) :
    let seen := before ++ [final]
    let joy := (Tracker.applyAll next (l.observations table seen) {} s).1.joy
    joy.pov.get 0 =
      (if ∀ x ∈ seen, x.hat = 0 then -1
      else if 0 ≤ final.hat ∧ final.hat ≤ 7 then final.hat.toInt32 * 4500
      else -1) ∧
    ∀ k : Stick, ∃ index,
      l.indexOf (.axis (l.stickAxis k)) = some index ∧
      l.objects[index]?.bind ObjectDescriptor.axis = some (l.stickCell k) ∧
      joy.axes[l.stickPlace k]? =
        some (if ∀ x ∈ seen, x.stick k = 0 then 0
        else
          scaleAxis (final.stick k).toInt32 ((table[index]?.join).getD .axisDefault)) := by
  intro seen joy
  refine ⟨?hat, fun k => ⟨_, l.indexOf_stickAxis k, l.axis_objects_stickAxis k, ?stick⟩⟩
  case hat =>
    have h := Tracker.hatCell_applyAll next l table seen {} s
    rw [Tracker.hatCell_fresh, foldl_follow_snoc] at h
    exact congrArg Prod.snd h
  case stick =>
    have h := Tracker.stickCell_applyAll next l table k seen {} s
    rw [Tracker.stickCell_fresh, foldl_follow_snoc] at h
    rw [← l.slot_stickCell k, Vector.getElem?_eq_getElem (l.stickCell k).slot.isLt]
    exact congrArg some (congrArg Prod.snd h)

/-- A sample whose fields are at rest is not mirrored: a fresh tracker that is handed one
goes on showing no direction for a hat that points up. -/
theorem joy_misses_resting_sample :
    ¬ ∀ (l : Layout) (table : CalibrationTable) (before : List Sample) (final : Sample),
      let seen := before ++ [final]
      let joy := (Tracker.applyAll countUp (l.observations table seen) {} 0).1.joy
      joy.pov.get 0 =
        (if 0 ≤ final.hat ∧ final.hat ≤ 7 then final.hat.toInt32 * 4500 else -1) ∧
      ∀ k : Stick, ∃ index,
        l.indexOf (.axis (l.stickAxis k)) = some index ∧
        l.objects[index]?.bind ObjectDescriptor.axis = some (l.stickCell k) ∧
        joy.axes[l.stickPlace k]? =
          some (scaleAxis (final.stick k).toInt32 ((table[index]?.join).getD .axisDefault)) := by
  intro h
  have hup := (h .standard [] [] {}).1
  exact absurd hup (by decide)

end RemotePad
