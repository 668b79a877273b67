import RemotePad.Proofs.Calibration.Centered
import RemotePad.Proofs.Tracker.Cells

/-!
# The common axis of both triggers

Under the extended layout the left trigger pulls an axis toward the one end and the right trigger
pulls it toward the other.  The axis shows one of them, the one that moved last, so what it shows
is a matter of the whole run and not of the last sample.

* `latestTriggerMove`: the latest of the samples that moved a trigger, with the one before it.
* `combinedTrigger_left`, `combinedTrigger_right` and `combinedTrigger_rest`: how far the triggers
  pull, and to which side.
* `Tracker.TriggersShown`: the axis shows the latest move.  Observations keep this
  (`TriggersShown.observe`), so it holds after every run (`triggersShown_applyAll`).
* `trigger_axis_comes_to_rest`: which value that is, and on which side of the rest it lies.
-/

namespace RemotePad

/-! ## Moves of a trigger -/

/-- A sample has a trigger elsewhere than an older one. -/
def Sample.MovesTrigger (new old : Sample) : Prop :=
  new.lz ≠ old.lz ∨ new.rz ≠ old.rz

instance (new old : Sample) : Decidable (new.MovesTrigger old) :=
  inferInstanceAs (Decidable (new.lz ≠ old.lz ∨ new.rz ≠ old.rz))

/-- The latest sample of a run that moved a trigger, behind the sample before it.  The first
sample comes after one at rest. -/
def latestTriggerMove (seen : List Sample) : Option (Sample × Sample) :=
  ((({} :: seen).zip seen).filter fun step => step.2.MovesTrigger step.1).getLast?

/-- Neighbours in a list that grows at its end. -/
theorem zip_neighbours_append_singleton {α : Type} (a : α) (xs : List α) (x : α) :
    (a :: (xs ++ [x])).zip (xs ++ [x]) = (a :: xs).zip xs ++ [(xs.getLastD a, x)] := by
  induction xs generalizing a with
  | nil => rfl
  | cons y rest ih =>
    rw [List.cons_append, List.zip_cons_cons, ih, List.getLastD_cons]
    rfl

/-- The last sample is the latest to move a trigger, or the latest one so far stays the latest. -/
theorem latestTriggerMove_append_singleton (seen : List Sample) (x : Sample) :
    latestTriggerMove (seen ++ [x]) =
      if x.MovesTrigger (seen.getLastD {}) then some (seen.getLastD {}, x)
      else latestTriggerMove seen := by
  unfold latestTriggerMove
  rw [zip_neighbours_append_singleton, List.filter_append, List.getLast?_append]
  split
  · next moves =>
    rw [List.filter_cons_of_pos (by simpa using moves)]
    rfl
  · next still =>
    rw [List.filter_cons_of_neg (by simpa using still)]
    rfl

/-! ## How far a trigger pulls -/

/-- A trigger pulls toward the end of its reach and not beyond it. -/
theorem mulDiv_level_toward (level : UInt8) (reach : Int32) :
    ∃ raw, mulDiv level.toUInt32.toInt32 reach 255 = some raw ∧
      Toward 0 reach.toInt raw.toInt raw.toInt := by
  have hlevel := level.toNat_lt
  obtain ⟨raw, hraw, hvalue⟩ := mulDiv_level level reach
  refine ⟨raw, hraw, ?_⟩
  rw [hvalue]
  exact share_toward reach.toInt (by decide) (by omega) (Int.le_refl _) (by omega)

section Pull

variable {old : Sample} {lz : UInt8} (rz : UInt8)

/-- A left trigger that moved pulls, toward the low end. -/
theorem combinedTrigger_left (moved : lz ≠ old.lz) :
    mulDiv lz.toUInt32.toInt32 (-32768) 255 = some (combinedTrigger old lz rz) ∧
      (combinedTrigger old lz rz).toInt ≤ 0 := by
  obtain ⟨raw, hraw, hpull⟩ := mulDiv_level_toward lz (-32768)
  have hreach : (-32768 : Int32).toInt = -32768 := rfl
  rw [combinedTrigger, if_pos moved, hraw, Option.getD_some]
  unfold Toward at hpull
  exact ⟨rfl, by omega⟩

/-- A right trigger pulls if the left one did not move, toward the high end. -/
theorem combinedTrigger_right (still : lz = old.lz) :
    mulDiv rz.toUInt32.toInt32 32767 255 = some (combinedTrigger old lz rz) ∧
      0 ≤ (combinedTrigger old lz rz).toInt := by
  obtain ⟨raw, hraw, hpull⟩ := mulDiv_level_toward rz 32767
  have hreach : (32767 : Int32).toInt = 32767 := rfl
  rw [combinedTrigger, if_neg (not_not.mpr still), hraw, Option.getD_some]
  unfold Toward at hpull
  exact ⟨rfl, by omega⟩

/-- At rest neither of them pulls. -/
theorem combinedTrigger_rest (old : Sample) : combinedTrigger old 0 0 = 0 := by
  unfold combinedTrigger
  split <;> decide

end Pull

/-! ## News of the common axis -/

/-- The axis of the triggers is told of exactly when one of them moved. -/
theorem Layout.mem_trigger_news_iff {table : CalibrationTable} {old new : Sample} {v : Int32} :
    (.axis 2, v) ∈ Layout.extended.news table old new ↔
      new.MovesTrigger old ∧
        v = scaleAxis (combinedTrigger old new.lz new.rz) (calibrationAt table 2) := by
  -- The other parts of the news name other axes, buttons and the hat.
  have hsticks : (ObjectId.axis 2, v) ∉ Layout.extended.stickNews table old new := by
    intro h
    obtain ⟨k, hk⟩ := object_of_mem_stickNews h
    cases k <;> cases congrArg ObjectId.number hk
  have hbuttons : (ObjectId.axis 2, v) ∉ Layout.extended.buttonNews old new := by
    intro h
    obtain ⟨slot, hslot⟩ := object_of_mem_buttonNews h
    cases congrArg ObjectId.kind hslot
  have hhat : (ObjectId.axis 2, v) ∉ hatNews old new := by
    intro h
    cases congrArg ObjectId.kind (object_of_mem_hatNews h)
  simp only [news, List.mem_append, hsticks, hbuttons, hhat, false_or, or_false]
  unfold triggerNews
  split
  · next moved => simp [moved.2, Sample.MovesTrigger, combinedTrigger_eq, calibrationAt]
  · next still => simp [Sample.MovesTrigger, not_and.mp still rfl]

namespace Tracker

variable {table : CalibrationTable} {x : Sample} {t : Tracker}

/-- A moved trigger is seen on the axis. -/
theorem shows_trigger_of_moved (moved : x.MovesTrigger t.last) :
    (observe .extended table x t).1.joy.Shows
      (scaleAxis (combinedTrigger t.last x.lz x.rz) (calibrationAt table 2)) (.axis .z) := by
  obtain ⟨c, hc, hobject, hvalue⟩ :=
    mem_news_iff.mp (Layout.mem_trigger_news_iff.mpr ⟨moved, rfl⟩)
  have hindex := (logged_observe .extended table x).placed t c hc
  have hplace : Layout.extended.indexOf (.axis 2) = some 2 := by decide
  rw [hobject, hplace] at hindex
  rw [← hvalue]
  refine shows_observe_of_told hc ?_
  rw [← Option.some.inj hindex]
  decide

/-- Without a move the axis goes on to show what it showed. -/
theorem shows_trigger_of_still (still : ¬ x.MovesTrigger t.last) (v : Int32) :
    (observe .extended table x t).1.joy.Shows v (.axis .z) ↔ t.joy.Shows v (.axis .z) := by
  refine shows_observe_of_untold (fun c hc hcell => still ?_) v
  obtain ⟨o, ho, hid, hocell, _⟩ := row_of_told hc hcell
  have hrow : ∀ o ∈ Layout.extended.objects, o.cell? = some (.axis .z) → o.id = .axis 2 := by
    decide
  have hobject : c.object = .axis 2 := hid.symm.trans (hrow o ho hocell)
  exact (Layout.mem_trigger_news_iff.mp (mem_news_iff.mpr ⟨c, hc, hobject, rfl⟩)).1

/-! ## Runs -/

/-- What is stored and shown of the triggers goes with the samples seen so far. -/
structure TriggersShown (table : CalibrationTable) (seen : List Sample) (t : Tracker) : Prop where
  stored : t.last = seen.getLastD {}
  /-- As long as no trigger has moved, both are at rest and the axis has not been written. -/
  unmoved : latestTriggerMove seen = none →
    (t.last.lz = 0 ∧ t.last.rz = 0) ∧ t.joy.Shows 0 (.axis .z)
  /-- After that, the triggers are where the latest move left them, and the axis shows it. -/
  moved : ∀ old new, latestTriggerMove seen = some (old, new) →
    (new.lz = t.last.lz ∧ new.rz = t.last.rz) ∧
      t.joy.Shows (scaleAxis (combinedTrigger old new.lz new.rz) (calibrationAt table 2)) (.axis .z)

theorem triggersShown_fresh (table : CalibrationTable) : TriggersShown table [] {} where
  stored := rfl
  unmoved := fun _ => ⟨⟨rfl, rfl⟩, rfl⟩
  moved := nofun

/-- A sample that moves a trigger is the latest to do so and is shown.  Any other leaves the
triggers, the axis and the latest move as they are. -/
theorem TriggersShown.observe {seen : List Sample} (shown : TriggersShown table seen t)
    (x : Sample) :
    TriggersShown table (seen ++ [x]) (observe .extended table x t).1 := by
  have hlast : (Tracker.observe .extended table x t).1.last = x := last_observe
  have hlatest := latestTriggerMove_append_singleton seen x
  rw [← shown.stored] at hlatest
  by_cases moves : x.MovesTrigger t.last
  · rw [if_pos moves] at hlatest
    refine ⟨by rw [hlast]; simp, fun hnone => ?_, fun old new hsome => ?_⟩
    · rw [hlatest] at hnone
      cases hnone
    · rw [hlatest] at hsome
      cases hsome
      rw [hlast]
      exact ⟨⟨rfl, rfl⟩, shows_trigger_of_moved moves⟩
  · rw [if_neg moves] at hlatest
    obtain ⟨hlz, hrz⟩ := not_or.mp moves
    rw [ne_eq, not_not] at hlz hrz
    refine ⟨by rw [hlast]; simp, fun hnone => ?_, fun old new hsome => ?_⟩
    · rw [hlatest] at hnone
      rw [hlast, hlz, hrz, shows_trigger_of_still moves]
      exact shown.unmoved hnone
    · rw [hlatest] at hsome
      rw [hlast, hlz, hrz, shows_trigger_of_still moves]
      exact shown.moved old new hsome

theorem triggersShown_applyAll {σ : Type} (next : σ → UInt64 × σ) (s : σ)
    (table : CalibrationTable) (seen : List Sample) :
    TriggersShown table seen
      (applyAll next (Layout.extended.observations table seen) {} s).1 := by
  -- The latest move is found at the end of the run, so the run grows there.
  induction seen using List.reverseRecOn with
  | nil => exact triggersShown_fresh table
  | append_singleton before x ih =>
    rw [applyAll_append_singleton]
    exact ih.observe x

end Tracker

/-! ## Rest -/

/-- The trigger axis of the extended layout after any samples from a fresh tracker, with `p` the
calibration listed for the axis, or the default one if none is.

* The last sample is the stored one, so a move is one against the stored triggers.
* Before any trigger has moved the cell is untouched.
* After that it shows the pull of the left trigger if that one moved in the latest move, and the
  pull of the right trigger if it moved alone.
* When both triggers are back at rest it shows the rest.
* On a range that does not fall, a move of the left trigger is not seen above the rest, and a move
  of the right one alone is not seen below it. -/
theorem trigger_axis_comes_to_rest {σ : Type} (next : σ → UInt64 × σ) (s : σ)
    (table : CalibrationTable) (seen : List Sample) :
    let p := (table[2]?.join).getD .axisDefault
    let t := (Tracker.applyAll next (Layout.extended.observations table seen) {} s).1
    let z := t.joy.axes[2]
    t.last = seen.getLastD {} ∧
    (latestTriggerMove seen = none → (t.last.lz = 0 ∧ t.last.rz = 0) ∧ z = 0) ∧
    ∀ old new, latestTriggerMove seen = some (old, new) →
      (new.lz ≠ old.lz → ∃ raw,
        mulDiv t.last.lz.toUInt32.toInt32 (-32768) 255 = some raw ∧ z = scaleAxis raw p) ∧
      (new.lz = old.lz → ∃ raw,
        mulDiv t.last.rz.toUInt32.toInt32 32767 255 = some raw ∧ z = scaleAxis raw p) ∧
      (t.last.lz = 0 → t.last.rz = 0 → z = scaleAxis 0 p) ∧
      (p.rangeMin ≤ p.rangeMax →
        (new.lz ≠ old.lz → z ≤ scaleAxis 0 p) ∧ (new.lz = old.lz → scaleAxis 0 p ≤ z)) := by
  intro p t z
  have shown := Tracker.triggersShown_applyAll next s table seen
  refine ⟨shown.stored, shown.unmoved, fun old new hlatest => ?_⟩
  obtain ⟨⟨hlz, hrz⟩, hz⟩ := shown.moved old new hlatest
  change new.lz = t.last.lz at hlz
  change new.rz = t.last.rz at hrz
  change z = scaleAxis (combinedTrigger old new.lz new.rz) p at hz
  rw [← hlz, ← hrz]
  have hrest : (0 : Int32).toInt = 0 := rfl
  refine ⟨fun left => ⟨_, (combinedTrigger_left new.rz left).1, hz⟩,
    fun right => ⟨_, (combinedTrigger_right new.rz right).1, hz⟩, fun restLeft restRight => ?rest,
    fun rising => ⟨fun left => ?below, fun right => ?above⟩⟩
  case rest => rw [hz, restLeft, restRight, combinedTrigger_rest]
  case below =>
    have hway := scaleAxis_toward p (hrest ▸ (combinedTrigger_left new.rz left).2)
    rw [← hz] at hway
    unfold Toward at hway
    rw [Int32.le_iff_toInt_le] at rising ⊢
    omega
  case above =>
    have hway := scaleAxis_toward p (hrest ▸ (combinedTrigger_right new.rz right).2)
    rw [← hz] at hway
    unfold Toward at hway
    rw [Int32.le_iff_toInt_le] at rising ⊢
    omega

/-- A right trigger that moves while the left one is held takes the axis over: a sample later it
still shows the right one, above the rest. -/
theorem trigger_axis_comes_to_rest_taken_over :
    let table : CalibrationTable := [none, none, some
      { logicalMin := -1000, logicalMax := 1000, rangeMin := -500, rangeMax := 500
        deadzone := 0, saturation := 10000, granularity := 1 }]
    let seen : List Sample :=
      [{ lz := 200 }, { lz := 200, rz := 5 }, { lz := 200, rz := 5, hat := 2 }]
    let p := (table[2]?.join).getD .axisDefault
    let t := (Tracker.applyAll countUp (Layout.extended.observations table seen) {} 0).1
    let z := t.joy.axes[2]
    latestTriggerMove seen = some ({ lz := 200 }, { lz := 200, rz := 5 }) ∧
    (∃ raw, mulDiv t.last.rz.toUInt32.toInt32 32767 255 = some raw ∧ z = scaleAxis raw p) ∧
    p.rangeMin ≤ p.rangeMax ∧ scaleAxis 0 p ≤ z ∧ z = 321 := by
  intro table seen p t z
  have hlatest : latestTriggerMove seen = some ({ lz := 200 }, { lz := 200, rz := 5 }) := by decide
  have rising : p.rangeMin ≤ p.rangeMax := by decide
  have shown := trigger_axis_comes_to_rest countUp 0 table seen
  extract_lets at shown
  obtain ⟨-, -, moved⟩ := shown
  obtain ⟨-, right, -, sides⟩ := moved _ _ hlatest
  exact ⟨hlatest, right rfl, rising, (sides rising).2 rfl, by decide⟩

end RemotePad
