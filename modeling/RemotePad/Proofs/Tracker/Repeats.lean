import Mathlib.Data.List.Destutter
import RemotePad.Proofs.Tracker.News

/-!
# Repeated samples

A tracker stores every field of a sample that its layout looks at, and has nothing to say of a
sample that agrees with the stored one in these fields.

* `Sample.Agrees` is that agreement.  It is what having no news comes to (`news_eq_nil_iff`), and
  then every part of an observation passes (`observe_of_agrees`).
* `Sample.storedOver` is what is stored of a sample (`last_observe`).  The sample agrees with it
  (`agrees_storedOver`), so the next one like it is passed over.
* `applyAll_repeat` and `applyAll_destutter`: repeats in a stream of samples change nothing.
* `repeats_are_silent` puts it together.
-/

namespace RemotePad

/-! ## Agreement with the stored sample -/

namespace Sample

/-- The sample agrees with an older one in all fields that a layout looks at. -/
structure Agrees (l : Layout) (x old : Sample) : Prop where
  buttons : x.buttons = old.buttons
  hat : x.hat = old.hat
  stick : ∀ k, x.stick k = old.stick k
  triggers : l = .extended → x.lz = old.lz ∧ x.rz = old.rz

/-- What is stored of a sample: the standard layout does not look at the triggers and keeps the
older ones. -/
def storedOver (x old : Sample) : Layout → Sample
  | .standard => { x with lz := old.lz, rz := old.rz }
  | .extended => x

theorem agrees_storedOver (l : Layout) (x old : Sample) : x.Agrees l (x.storedOver old l) := by
  cases l with
  | standard => exact ⟨rfl, rfl, fun k => by cases k <;> rfl, nofun⟩
  | extended => exact ⟨rfl, rfl, fun _ => rfl, fun _ => ⟨rfl, rfl⟩⟩

end Sample

/-! ## No news -/

namespace Layout

variable {l : Layout} {table : CalibrationTable} {old new : Sample}

theorem axisNews_eq_nil_iff {field : Sample → Int16} {number : UInt8} :
    axisNews table old new field number = [] ↔ field new = field old := by
  unfold axisNews
  split
  · next still => exact iff_of_true rfl still
  · next moved => exact iff_of_false (List.cons_ne_nil _ _) moved

theorem stickNews_eq_nil_iff :
    l.stickNews table old new = [] ↔ ∀ k, new.stick k = old.stick k := by
  rw [stickNews_eq]
  simp only [List.append_eq_nil_iff, axisNews_eq_nil_iff]
  constructor
  · rintro ⟨hlx, hly, hrx, hry⟩ k
    cases k <;> assumption
  · exact fun still => ⟨still .lx, still .ly, still .rx, still .ry⟩

theorem triggerNews_eq_nil_iff :
    l.triggerNews table old new = [] ↔ (l = .extended → new.lz = old.lz ∧ new.rz = old.rz) := by
  unfold triggerNews
  split
  · next moved =>
    refine iff_of_false (List.cons_ne_nil _ _) fun still => ?_
    obtain ⟨hlz, hrz⟩ := still moved.1
    exact moved.2.elim (· hlz) (· hrz)
  · next still =>
    refine iff_of_true rfl fun hl => ?_
    exact ⟨not_not.mp fun h => still ⟨hl, Or.inl h⟩, not_not.mp fun h => still ⟨hl, Or.inr h⟩⟩

/-- Every layout has buttons, so a changed mask is always announced. -/
theorem buttonNews_eq_nil_iff : l.buttonNews old new = [] ↔ new.buttons = old.buttons := by
  unfold buttonNews
  split
  · next still => exact iff_of_true rfl still
  · next moved =>
    refine iff_of_false ?_ moved
    cases l <;> exact List.cons_ne_nil _ _

theorem hatNews_eq_nil_iff : hatNews old new = [] ↔ new.hat = old.hat := by
  unfold hatNews
  split
  · next still => exact iff_of_true rfl still
  · next moved => exact iff_of_false (List.cons_ne_nil _ _) moved

/-- A sample that agrees is no news, and any other is. -/
theorem news_eq_nil_iff : l.news table old new = [] ↔ new.Agrees l old := by
  simp only [news, List.append_eq_nil_iff, stickNews_eq_nil_iff, triggerNews_eq_nil_iff,
    buttonNews_eq_nil_iff, hatNews_eq_nil_iff]
  constructor
  · rintro ⟨⟨⟨hsticks, htriggers⟩, hbuttons⟩, hhat⟩
    exact ⟨hbuttons, hhat, hsticks, htriggers⟩
  · rintro ⟨hbuttons, hhat, hsticks, htriggers⟩
    exact ⟨⟨⟨hsticks, htriggers⟩, hbuttons⟩, hhat⟩

end Layout

namespace Tracker

variable {l : Layout} {table : CalibrationTable} {x : Sample} {t : Tracker}

/-! ## What an observation stores -/

theorem last_hatStage : (hatStage l x t).1.last = { t.last with hat := x.hat } := by
  unfold hatStage
  split
  · next still => rw [still]
  · rfl

/-- Each part stores its own fields, and together they store what the layout looks at. -/
theorem last_observe : (observe l table x t).1.last = x.storedOver t.last l := by
  simp only [observe, Stage.andThen, last_hatStage, last_buttonStage, last_triggerStage,
    last_stickStage]
  cases l <;> rfl

/-! ## Passing over a sample -/

/-- A sample that agrees is passed over by each part, so nothing is stored, shown or told. -/
theorem observe_of_agrees (agrees : x.Agrees l t.last) : observe l table x t = (t, []) := by
  have hstick : ∀ k, stickStage l table x k t = (t, []) := fun k => if_pos (agrees.stick k)
  have htriggers : triggerStage l table x t = (t, []) := by
    unfold triggerStage
    rw [if_neg]
    rintro ⟨hl, moved⟩
    obtain ⟨hlz, hrz⟩ := agrees.triggers hl
    exact moved.elim (· hlz) (· hrz)
  have hbuttons : buttonStage l x t = (t, []) := if_pos agrees.buttons
  have hhat : hatStage l x t = (t, []) := if_pos agrees.hat
  simp only [observe, Stage.andThen, hstick, htriggers, hbuttons, hhat, List.append_nil]

variable {σ : Type} {next : σ → UInt64 × σ} {s : σ}

theorem last_apply : (t.apply l table x next s).1.last = x.storedOver t.last l := by
  simp only [apply, last_observe]

theorem apply_of_agrees (agrees : x.Agrees l t.last) : t.apply l table x next s = (t, [], s) := by
  rw [apply, observe_of_agrees agrees]
  rfl

/-- A call has no events exactly when the sample is no news. -/
theorem length_apply_eq_zero_iff :
    (t.apply l table x next s).2.1.length = 0 ↔ x.Agrees l t.last := by
  rw [apply, length_numbered, ← Layout.news_eq_nil_iff, ← map_news_observe, List.map_eq_nil_iff,
    List.length_eq_zero_iff]

/-- After a sample was applied, the same sample is passed over, whatever the calibrations. -/
theorem apply_again (table' : CalibrationTable) {ρ : Type} (next' : ρ → UInt64 × ρ) (r : ρ) :
    (t.apply l table x next s).1.apply l table' x next' r =
      ((t.apply l table x next s).1, [], r) := by
  apply apply_of_agrees
  rw [last_apply]
  exact x.agrees_storedOver l t.last

/-! ## Streams with repeats -/

/-- The second of two calls with one sample may go. -/
theorem applyAll_cons_repeat (o : Observation) (table' : CalibrationTable)
    (after : List Observation) (t : Tracker) (s : σ) :
    applyAll next (o :: { o with table := table' } :: after) t s =
      applyAll next (o :: after) t s := by
  simp only [applyAll, apply_again, List.nil_append]

/-- So it may anywhere in a stream of samples, under any layouts. -/
theorem applyAll_repeat (before after : List Observation) (o : Observation)
    (table' : CalibrationTable) (t : Tracker) (s : σ) :
    applyAll next (before ++ o :: { o with table := table' } :: after) t s =
      applyAll next (before ++ o :: after) t s := by
  simp only [applyAll_append, applyAll_cons_repeat]

/-- All repeats of a stream may go at once. -/
theorem applyAll_destutter (samples : List Sample) (t : Tracker) (s : σ) :
    applyAll next (l.observations table (samples.destutter (· ≠ ·))) t s =
      applyAll next (l.observations table samples) t s := by
  cases samples with
  | nil => rfl
  | cons x rest =>
    -- From here on the sample kept last goes along, and with it what the tracker has stored.
    rw [List.destutter_cons']
    induction rest generalizing x t s with
    | nil => rfl
    | cons y rest ih =>
      by_cases hxy : x = y
      · subst hxy
        rw [List.destutter'_cons_neg rest (not_not.mpr rfl), ih]
        exact (applyAll_cons_repeat ⟨l, table, x⟩ table (l.observations table rest) t s).symm
      · rw [List.destutter'_cons_pos rest hxy]
        simp only [Layout.observations, List.map_cons, applyAll] at ih ⊢
        rw [ih]

end Tracker

/-! ## Silence -/

/-- Whatever a tracker has seen before:

* A call has no events exactly when the sample agrees with the stored one in buttons, hat, sticks
  and, under the extended layout, triggers.
* The sample is stored, but for the triggers under the standard layout.
* The same sample under the same layout then has no events, draws no number and leaves the tracker
  as it is, even with other calibrations.
* So a repeat anywhere in a stream, or all of them, may be put in or left out: the tracker, the
  events and the source of numbers are the same after all samples. -/
theorem repeats_are_silent {σ : Type} (next : σ → UInt64 × σ) (s : σ) (t : Tracker) (l : Layout)
    (table : CalibrationTable) (x : Sample) :
    let call := t.apply l table x next s
    (call.2.1.length = 0 ↔
      x.buttons = t.last.buttons ∧ x.hat = t.last.hat ∧ x.lx = t.last.lx ∧ x.ly = t.last.ly ∧
        x.rx = t.last.rx ∧ x.ry = t.last.ry ∧
        (l = .extended → x.lz = t.last.lz ∧ x.rz = t.last.rz)) ∧
    (call.1.last =
      match l with
      | .standard => { x with lz := t.last.lz, rz := t.last.rz }
      | .extended => x) ∧
    (∀ (table' : CalibrationTable) (ρ : Type) (next' : ρ → UInt64 × ρ) (r : ρ),
      call.1.apply l table' x next' r = (call.1, [], r)) ∧
    (∀ (before after : List Observation) (o : Observation) (table' : CalibrationTable),
      Tracker.applyAll next (before ++ o :: { o with table := table' } :: after) t s =
        Tracker.applyAll next (before ++ o :: after) t s) ∧
    ∀ samples : List Sample,
      Tracker.applyAll next (l.observations table (samples.destutter (· ≠ ·))) t s =
        Tracker.applyAll next (l.observations table samples) t s := by
  intro call
  have hsilent : call.2.1.length = 0 ↔ x.Agrees l t.last := Tracker.length_apply_eq_zero_iff
  have hstored : call.1.last = x.storedOver t.last l := Tracker.last_apply
  refine ⟨?fields, ?stored, ?again, ?inserted, ?all⟩
  case fields =>
    rw [hsilent]
    constructor
    · intro agrees
      exact ⟨agrees.buttons, agrees.hat, agrees.stick .lx, agrees.stick .ly, agrees.stick .rx,
        agrees.stick .ry, agrees.triggers⟩
    · rintro ⟨hbuttons, hhat, hlx, hly, hrx, hry, htriggers⟩
      exact ⟨hbuttons, hhat, fun k => by cases k <;> assumption, htriggers⟩
  case stored =>
    rw [hstored]
    cases l <;> rfl
  case again =>
    intro table' ρ next' r
    exact Tracker.apply_again table' next' r
  case inserted =>
    intro before after o table'
    exact Tracker.applyAll_repeat before after o table' t s
  case all =>
    intro samples
    exact Tracker.applyAll_destutter samples t s

/-- Under the standard layout a trigger is neither told nor stored, however it moves. -/
example :
    let call := Tracker.apply {} .standard [] { lz := 255 } countUp 0
    call.2.1 = [] ∧ call.1 = {} := by decide

end RemotePad
