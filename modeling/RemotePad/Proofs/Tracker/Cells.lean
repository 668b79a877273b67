import RemotePad.Proofs.Tracker.Repeats

/-!
# The cells of a joystick record under one layout

An observation tells of some cells of the joystick record and of no others.  The cells that it
tells of show what it told; the others stay as they are.

* `shows_observe_of_told`, `shows_observe_of_untold`: that rule, for any cell.
* `mem_button_news_iff`: buttons are told all together, when the mask changed.
* `Tracker.Faithful`: the button cells show the mask, and whatever the layout does not drive is at
  rest.  A fresh tracker is so (`faithful_fresh`), and every observation under the same layout
  leaves it so (`Faithful.observe`).
-/

namespace RemotePad

/-! ## Cells that are told of -/

/-- Only a row of an axis drives the cell of that axis. -/
theorem ObjectDescriptor.axis_of_cell? {o : ObjectDescriptor} {a : AxisType}
    (h : o.cell? = some (.axis a)) : o.axis = some a := by
  unfold cell? at h
  split at h
  · obtain ⟨b, hb, hcell⟩ := Option.map_eq_some_iff.mp h
    cases hcell
    exact hb
  · cases h
  · cases h

/-- Only the row of a button drives the cell of that button. -/
theorem ObjectDescriptor.id_of_cell? {o : ObjectDescriptor} {n : UInt8}
    (h : o.cell? = some (.button n)) : o.id = .button n := by
  unfold cell? at h
  split at h
  · obtain ⟨_, _, hcell⟩ := Option.map_eq_some_iff.mp h
    cases hcell
  · next hkind =>
    cases h
    rw [ObjectId.button, ← hkind]
  · cases h

namespace Tracker

variable {l : Layout} {table : CalibrationTable} {x : Sample} {t : Tracker} {c : Change}
  {cell : JoyCell}

/-- A change stands for the row of its object, which drives the cell of the change. -/
theorem row_of_told (told : c ∈ (observe l table x t).2) (hcell : l.cell? c.index = some cell) :
    ∃ o ∈ l.objects, o.id = c.object ∧ o.cell? = some cell ∧ cell.inRecord = true := by
  obtain ⟨o, ho, cell', _, hid, hocell, hplace, hin⟩ :=
    Layout.cell?_of_indexOf ((logged_observe l table x).placed t c told)
  obtain rfl : cell = cell' := Option.some.inj (hcell.symm.trans hplace)
  exact ⟨o, ho, hid, hocell, hin⟩

/-- A cell shows what was told of it. -/
theorem shows_observe_of_told (told : c ∈ (observe l table x t).2)
    (hcell : l.cell? c.index = some cell) : (observe l table x t).1.joy.Shows c.value cell := by
  obtain ⟨_, _, _, _, hin⟩ := row_of_told told hcell
  rw [← (logged_observe l table x).replayed t]
  exact JoyState.shows_foldl_of_distinct (distinct_observe l table x t) t.joy told hcell hin

/-- A cell of which nothing was told shows what it showed. -/
theorem shows_observe_of_untold (untold : ∀ c ∈ (observe l table x t).2, l.cell? c.index ≠ some cell)
    (v : Int32) : (observe l table x t).1.joy.Shows v cell ↔ t.joy.Shows v cell := by
  rw [← (logged_observe l table x).replayed t]
  exact JoyState.shows_foldl_of_unwritten untold t.joy v

/-- Nothing is ever told of the other direction cells. -/
theorem pov_observe {i : Fin 4} (other : i ≠ 0) :
    (observe l table x t).1.joy.pov.get i = t.joy.pov.get i := by
  have hi : (0 : Nat) ≠ i.val := fun h => other (Fin.ext h.symm)
  have hwrite : ∀ (j : JoyState) (v : Int32) (cell : JoyCell),
      (j.write v cell).pov.get i = j.pov.get i := by
    intro j v cell
    cases cell with
    | axis a => rfl
    | button n => rfl
    | direction => exact Vector.getElem_set_ne (by decide) i.isLt hi
  -- No change names one of these cells, so none that is replayed writes it.
  have hreplay : ∀ (cs : List Change) (j : JoyState),
      (cs.foldl (JoyState.replay l) j).pov.get i = j.pov.get i := by
    intro cs
    induction cs with
    | nil => exact fun j => rfl
    | cons c rest ih =>
      intro j
      rw [List.foldl_cons, ih, JoyState.replay]
      split
      · exact hwrite _ _ _
      · rfl
  rw [← (logged_observe l table x).replayed t]
  exact hreplay _ _

end Tracker

/-! ## Objects of the news -/

namespace Layout

variable {l : Layout} {table : CalibrationTable} {old new : Sample} {n : News}

theorem object_of_mem_axisNews {field : Sample → Int16} {number : UInt8}
    (h : n ∈ axisNews table old new field number) : n.1 = .axis number := by
  unfold axisNews at h
  split at h
  · cases h
  · rw [List.mem_singleton.mp h]

/-- Sticks are told of under the axes that they drive. -/
theorem object_of_mem_stickNews (h : n ∈ l.stickNews table old new) :
    ∃ k, n.1 = .axis (l.stickAxis k) := by
  rw [stickNews_eq] at h
  simp only [List.mem_append] at h
  rcases h with h | h | h | h
  · exact ⟨.lx, object_of_mem_axisNews h⟩
  · exact ⟨.ly, object_of_mem_axisNews h⟩
  · exact ⟨.rx, object_of_mem_axisNews h⟩
  · exact ⟨.ry, object_of_mem_axisNews h⟩

theorem object_of_mem_triggerNews (h : n ∈ l.triggerNews table old new) : n.1 = .axis 2 := by
  unfold triggerNews at h
  split at h
  · rw [List.mem_singleton.mp h]
  · cases h

theorem object_of_mem_buttonNews (h : n ∈ l.buttonNews old new) : ∃ slot, n.1 = .button slot := by
  unfold buttonNews at h
  split at h
  · cases h
  · obtain ⟨⟨slot, _⟩, _, rfl⟩ := List.mem_map.mp h
    exact ⟨slot, rfl⟩

theorem object_of_mem_hatNews (h : n ∈ hatNews old new) : n.1 = .hat 0 := by
  unfold hatNews at h
  split at h
  · cases h
  · rw [List.mem_singleton.mp h]

end Layout

/-! ## News of buttons -/

/-- A button is told of exactly when the mask changed, with the bit that stands for it. -/
theorem Layout.mem_button_news_iff {l : Layout} {table : CalibrationTable} {old new : Sample}
    {slot : UInt8} {v : Int32} :
    (.button slot, v) ∈ l.news table old new ↔
      new.buttons ≠ old.buttons ∧ ∃ bit, (slot, bit) ∈ l.slots.zipIdx ∧
        v = if new.buttons.toNat.testBit bit then 0x80 else 0 := by
  -- The other parts of the news name axes and the hat.
  have hsticks : (ObjectId.button slot, v) ∉ l.stickNews table old new := by
    intro h
    obtain ⟨k, hk⟩ := object_of_mem_stickNews h
    cases congrArg ObjectId.kind hk
  have htriggers : (ObjectId.button slot, v) ∉ l.triggerNews table old new := by
    intro h
    cases congrArg ObjectId.kind (object_of_mem_triggerNews h)
  have hhat : (ObjectId.button slot, v) ∉ hatNews old new := by
    intro h
    cases congrArg ObjectId.kind (object_of_mem_hatNews h)
  simp only [news, List.mem_append, hsticks, htriggers, hhat, false_or, or_false]
  unfold buttonNews
  split
  · next still => simp [still]
  · next moved =>
    simp only [moved, ne_eq, not_false_eq_true, true_and, List.mem_map, Prod.exists]
    constructor
    · rintro ⟨slot', bit, hbit, hnews⟩
      cases hnews
      exact ⟨bit, hbit, rfl⟩
    · rintro ⟨bit, hbit, rfl⟩
      exact ⟨slot, bit, hbit, rfl⟩

namespace Tracker

variable {l : Layout} {table : CalibrationTable} {x : Sample} {t : Tracker}

/-- The changes of an observation tell the news, and nothing else. -/
theorem mem_news_iff {object : ObjectId} {v : Int32} :
    (object, v) ∈ l.news table t.last x ↔
      ∃ c ∈ (observe l table x t).2, c.object = object ∧ c.value = v := by
  rw [← map_news_observe, List.mem_map]
  simp only [Change.news, Prod.mk.injEq]

/-- What is told of the cell of a button is the news of that button. -/
theorem news_of_told_button {c : Change} {slot : UInt8} (told : c ∈ (observe l table x t).2)
    (hcell : l.cell? c.index = some (.button slot)) :
    (.button slot, c.value) ∈ l.news table t.last x := by
  obtain ⟨o, _, hid, hocell, _⟩ := row_of_told told hcell
  have hobject : c.object = .button slot := hid.symm.trans (ObjectDescriptor.id_of_cell? hocell)
  exact mem_news_iff.mpr ⟨c, told, hobject, rfl⟩

/-! ## Faithful records -/

/-- The record goes with the last sample under a layout: the button in each slot shows its bit,
and the cells that nothing of the layout drives are at rest. -/
structure Faithful (l : Layout) (t : Tracker) : Prop where
  slots : ∀ slot bit, (slot, bit) ∈ l.slots.zipIdx →
    t.joy.Shows (if t.last.buttons.toNat.testBit bit then 0x80 else 0) (.button slot)
  spare : ∀ n : UInt8, n ∉ l.slots → n.toNat < 32 → t.joy.Shows 0 (.button n)
  undriven : ∀ a, (∀ o ∈ l.objects, o.axis ≠ some a) → t.joy.Shows 0 (.axis a)
  directions : ∀ i : Fin 4, i ≠ 0 → t.joy.pov.get i = hatCentered

theorem faithful_fresh (l : Layout) : Faithful l {} where
  slots := by
    have hall : ∀ entry ∈ l.slots.zipIdx, ({} : Tracker).joy.Shows
        (if ({} : Tracker).last.buttons.toNat.testBit entry.2 then 0x80 else 0)
        (.button entry.1) := by
      cases l <;> decide
    exact fun slot bit hbit => hall (slot, bit) hbit
  spare := fun n _ hn => by
    rw [JoyState.Shows, Vector.getElem?_replicate, if_pos hn]
    rfl
  undriven := fun a _ => by cases a <;> rfl
  directions := by decide

/-- A button cell shows its bit after the observation: it was told of when the mask changed, and
it goes on to show its bit when the mask did not. -/
theorem Faithful.slots_observe (faithful : Faithful l t) {slot : UInt8} {bit : Nat}
    (hbit : (slot, bit) ∈ l.slots.zipIdx) :
    (observe l table x t).1.joy.Shows (if x.buttons.toNat.testBit bit then 0x80 else 0)
      (.button slot) := by
  by_cases still : x.buttons = t.last.buttons
  · -- A mask that stays is no news of any button.
    have untold : ∀ c ∈ (observe l table x t).2, l.cell? c.index ≠ some (.button slot) :=
      fun c hc hcell => (Layout.mem_button_news_iff.mp (news_of_told_button hc hcell)).1 still
    rw [shows_observe_of_untold untold, still]
    exact faithful.slots slot bit hbit
  · have hnews : (.button slot, if x.buttons.toNat.testBit bit then 0x80 else 0) ∈
        l.news table t.last x := Layout.mem_button_news_iff.mpr ⟨still, bit, hbit, rfl⟩
    obtain ⟨c, hc, hobject, hvalue⟩ := mem_news_iff.mp hnews
    have hindex := (logged_observe l table x).placed t c hc
    rw [hobject] at hindex
    rw [← hvalue]
    exact shows_observe_of_told hc (Layout.cell?_button hindex)

/-- An observation under the same layout leaves a faithful record faithful. -/
theorem Faithful.observe (faithful : Faithful l t) : Faithful l (observe l table x t).1 where
  slots := fun slot bit hbit => by
    have hmask : (Tracker.observe l table x t).1.last.buttons = x.buttons := by
      rw [last_observe]
      cases l <;> rfl
    rw [hmask]
    exact faithful.slots_observe hbit
  spare := fun n hspare hn => by
    refine (shows_observe_of_untold (fun c hc hcell => hspare ?_) 0).mpr
      (faithful.spare n hspare hn)
    obtain ⟨_, bit, hbit, _⟩ := Layout.mem_button_news_iff.mp (news_of_told_button hc hcell)
    exact (List.mem_zipIdx' hbit).2 ▸ List.getElem_mem _
  undriven := fun a hundriven => by
    refine (shows_observe_of_untold (fun c hc hcell => ?_) 0).mpr (faithful.undriven a hundriven)
    obtain ⟨o, ho, _, hocell, _⟩ := row_of_told hc hcell
    exact hundriven o ho (ObjectDescriptor.axis_of_cell? hocell)
  directions := fun i hi => (pov_observe hi).trans (faithful.directions i hi)

end Tracker

end RemotePad
