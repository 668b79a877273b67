import RemotePad.Proofs.Tracker.Mirror

/-!
# Events are a log of the joystick record

An event refers to a row of the object table of its layout, and the row names a cell of
the joystick record.  Writing the values of the events into their cells, one after the
other, is *replaying* them.

* `JoyState.write` and `JoyState.Shows`: writing a cell and what a cell shows;
  `ObjectDescriptor.cell?` is the cell of an object.
* `Stage.Logged` is what is asked of a part of an observation: replaying its changes makes
  the record that it leaves, each change names its object, and objects come in a fixed
  order.  It is kept by `Stage.andThen`, holds of every part and so of `Tracker.observe`.
* `replay_log`: after any calls under any layouts, the record is what replaying all events
  makes of a fresh one.  In each call a cell that no event names stays as it is, and every
  event is seen in its cell.
-/

namespace RemotePad

/-! ## Cells -/

/-- A cell of the joystick record that an object can drive. -/
inductive JoyCell where
  | axis (a : AxisType)
  | button (number : UInt8)
  /-- The first of the direction cells. -/
  | direction
  deriving Repr, DecidableEq

/-- There are thirty-two button cells. -/
def JoyCell.inRecord : JoyCell → Bool
  | .button n => n.toNat < 32
  | _ => true

namespace JoyState

/-- The byte that a button cell keeps of a value. -/
def buttonByte (value : Int32) : UInt8 :=
  value.toUInt32.toUInt8

/-- Writes a value into a cell. -/
def write (j : JoyState) (value : Int32) : JoyCell → JoyState
  | .axis a => j.setAxis a value
  | .button n => { j with buttons := j.buttons.setIfInBounds n.toNat (buttonByte value) }
  | .direction => j.setPov value

/-- A cell shows a value. -/
def Shows (j : JoyState) (value : Int32) : JoyCell → Prop
  | .axis a => j.axes.get a.slot = value
  | .button n => j.buttons[n.toNat]? = some (buttonByte value)
  | .direction => j.pov[0]? = some value

instance (j : JoyState) (value : Int32) : (cell : JoyCell) → Decidable (j.Shows value cell)
  | .axis a => inferInstanceAs (Decidable (j.axes.get a.slot = value))
  | .button n => inferInstanceAs (Decidable (j.buttons[n.toNat]? = some (buttonByte value)))
  | .direction => inferInstanceAs (Decidable (j.pov[0]? = some value))

theorem shows_write_self (j : JoyState) (value : Int32) {cell : JoyCell}
    (inRecord : cell.inRecord = true) : (j.write value cell).Shows value cell := by
  cases cell with
  | axis a => exact j.axes_setAxis_self a value
  | button n =>
    have hn : n.toNat < 32 := of_decide_eq_true inRecord
    simp [write, Shows, hn]
  | direction => simp [write, Shows, setPov]

theorem shows_write_ne (j : JoyState) (value v : Int32) {cell other : JoyCell}
    (h : cell ≠ other) : (j.write value cell).Shows v other ↔ j.Shows v other := by
  cases cell with
  | axis a =>
    cases other with
    | axis b =>
      have hab : a ≠ b := fun hs => h (congrArg JoyCell.axis hs)
      have hsame : (j.setAxis a value).axes.get b.slot = j.axes.get b.slot :=
        axes_setAxis_ne j hab value
      simp only [write, Shows, hsame]
    | button m => exact Iff.rfl
    | direction => exact Iff.rfl
  | button n =>
    cases other with
    | axis b => exact Iff.rfl
    | button m =>
      have hnm : n.toNat ≠ m.toNat := fun hs => h (congrArg JoyCell.button (UInt8.toNat_inj.mp hs))
      simp [write, Shows, hnm]
    | direction => exact Iff.rfl
  | direction =>
    cases other with
    | axis b => exact Iff.rfl
    | button m => exact Iff.rfl
    | direction => exact absurd rfl h

/-- The values of button events write what the snapshot keeps of a button. -/
theorem write_button (j : JoyState) (slot : UInt8) (pressed : Bool) :
    j.write (if pressed then buttonPressed else buttonReleased) (.button slot) =
      j.setButton slot pressed := by
  cases pressed <;> rfl

end JoyState

/-! ## Cells of objects -/

/-- The cell that an object drives. -/
def ObjectDescriptor.cell? (o : ObjectDescriptor) : Option JoyCell :=
  match o.id.kind with
  | .axis => o.axis.map .axis
  | .button => some (.button o.id.number)
  | .hat => some .direction

/-- The cell of the object at a table index. -/
def Layout.cell? (l : Layout) (index : Nat) : Option JoyCell :=
  l.objects[index]?.bind ObjectDescriptor.cell?

/-- Every object of a table drives a cell of the record. -/
theorem Layout.cell?_objects (l : Layout) :
    ∀ o ∈ l.objects, o.cell?.any JoyCell.inRecord = true := by
  cases l <;> decide

/-- Different objects of a table drive different cells. -/
theorem Layout.cell?_inj (l : Layout) :
    ∀ o ∈ l.objects, ∀ p ∈ l.objects, o.cell? = p.cell? → o.id = p.id := by
  cases l <;> decide

/-- The index of an object leads to its row. -/
theorem Layout.objects_of_indexOf {l : Layout} {id : ObjectId} {index : Nat}
    (h : l.indexOf id = some index) :
    ∃ o ∈ l.objects, l.objects[index]? = some o ∧ o.id = id := by
  obtain ⟨hlt, hid, _⟩ := List.findIdx?_eq_some_iff_getElem.mp h
  exact ⟨_, List.getElem_mem hlt, List.getElem?_eq_getElem hlt, of_decide_eq_true hid⟩

/-- What an object that the layout knows is good for: its row has a cell in the record. -/
theorem Layout.cell?_of_indexOf {l : Layout} {id : ObjectId} {index : Nat}
    (h : l.indexOf id = some index) :
    ∃ o ∈ l.objects, ∃ cell, l.objects[index]? = some o ∧ o.id = id ∧ o.cell? = some cell ∧
      l.cell? index = some cell ∧ cell.inRecord = true := by
  obtain ⟨o, hmem, hrow, hid⟩ := objects_of_indexOf h
  obtain ⟨cell, hcell, hin⟩ := (Option.any_eq_true _ _).mp (l.cell?_objects o hmem)
  exact ⟨o, hmem, cell, hrow, hid, hcell, by rw [cell?, hrow, Option.bind_some, hcell], hin⟩

/-! ## Replaying changes -/

/-- Writes a change into the cell of the object that it refers to. -/
def JoyState.replay (l : Layout) (j : JoyState) (c : Change) : JoyState :=
  match l.cell? c.index with
  | some cell => j.write c.value cell
  | none => j

namespace JoyState

theorem replay_of_cell {l : Layout} {c : Change} {cell : JoyCell}
    (h : l.cell? c.index = some cell) (j : JoyState) : j.replay l c = j.write c.value cell := by
  simp only [replay, h]

/-- A cell that no change refers to stays as it is. -/
theorem shows_foldl_of_unwritten {l : Layout} {cell : JoyCell} {cs : List Change}
    (unwritten : ∀ c ∈ cs, l.cell? c.index ≠ some cell) (j : JoyState) (v : Int32) :
    (cs.foldl (replay l) j).Shows v cell ↔ j.Shows v cell := by
  induction cs generalizing j with
  | nil => exact Iff.rfl
  | cons c rest ih =>
    have hrest : ∀ d ∈ rest, l.cell? d.index ≠ some cell := fun d hd =>
      unwritten d (List.mem_cons_of_mem c hd)
    rw [List.foldl_cons, ih hrest]
    cases hc : l.cell? c.index with
    | none => simp only [replay, hc]
    | some other =>
      have hne : other ≠ cell := fun h => unwritten c List.mem_cons_self (hc.trans (by rw [h]))
      rw [replay_of_cell hc, shows_write_ne _ _ _ hne]

/-- Of changes to different cells, each is seen in its cell afterwards. -/
theorem shows_foldl_of_distinct {l : Layout} {cs : List Change}
    (distinct : cs.Pairwise fun c d => l.cell? c.index ≠ l.cell? d.index) (j : JoyState)
    {c : Change} (hc : c ∈ cs) {cell : JoyCell} (hcell : l.cell? c.index = some cell)
    (inRecord : cell.inRecord = true) : (cs.foldl (replay l) j).Shows c.value cell := by
  induction cs generalizing j with
  | nil => cases hc
  | cons d rest ih =>
    obtain ⟨hd, hrest⟩ := List.pairwise_cons.mp distinct
    rw [List.foldl_cons]
    rcases List.mem_cons.mp hc with rfl | hmem
    · -- the later changes are to other cells
      have hlater : ∀ e ∈ rest, l.cell? e.index ≠ some cell := fun e he h =>
        hd e he (hcell.trans h.symm)
      rw [shows_foldl_of_unwritten hlater, replay_of_cell hcell]
      exact shows_write_self j c.value inRecord
    · exact ih hrest _ hmem

end JoyState

/-! ## Parts of an observation -/

/-- A part of an observation under a layout announces what it writes: replaying its changes
makes the record that it leaves, and the changes name objects in the given order. -/
structure Stage.Logged (l : Layout) (order : List ObjectId) (f : Stage) : Prop where
  replayed : ∀ t, (f t).2.foldl (JoyState.replay l) t.joy = (f t).1.joy
  placed : ∀ t, ∀ c ∈ (f t).2, l.indexOf c.object = some c.index
  ordered : ∀ t, ((f t).2.map Change.object).Sublist order

namespace Stage

theorem Logged.andThen {l : Layout} {os ps : List ObjectId} {f g : Stage} (hf : Logged l os f)
    (hg : Logged l ps g) : Logged l (os ++ ps) (Stage.andThen f g) where
  replayed := fun t => by
    simp only [Stage.andThen, List.foldl_append, hf.replayed, hg.replayed]
  placed := fun t c hc => by
    rcases List.mem_append.mp hc with h | h
    · exact hf.placed t c h
    · exact hg.placed _ c h
  ordered := fun t => by
    simp only [Stage.andThen, List.map_append]
    exact (hf.ordered t).append (hg.ordered _)

/-- A part that does nothing. -/
theorem Logged.silent {l : Layout} {os : List ObjectId} : Logged l os fun t => (t, []) where
  replayed := fun _ => rfl
  placed := fun _ _ hc => absurd hc List.not_mem_nil
  ordered := fun _ => List.nil_sublist os

/-- A part that does nothing while a raw value is still, and else stores the raw value
first. -/
theorem Logged.unlessStill {l : Layout} {os : List ObjectId} {f : Tracker → Stage}
    (still : Tracker → Prop) [DecidablePred still] (stored : Tracker → Sample)
    (hf : ∀ t, Logged l os (f t)) :
    Logged l os fun t => if still t then (t, []) else f t { t with last := stored t } where
  replayed := fun t => by
    split
    · rfl
    · exact (hf t).replayed { t with last := stored t }
  placed := fun t c hc => by
    split at hc
    · exact absurd hc List.not_mem_nil
    · exact (hf t).placed _ c hc
  ordered := fun t => by
    split
    · exact List.nil_sublist os
    · exact (hf t).ordered _

end Stage

theorem logged_reportAxis (l : Layout) (table : CalibrationTable) (number : UInt8) (raw : Int32) :
    Stage.Logged l [.axis number] (reportAxis l table number raw) where
  replayed := fun t => by
    unfold reportAxis
    cases hindex : l.indexOf (.axis number) with
    | none => rfl
    | some index =>
      obtain ⟨o, _, cell, hrow, hid, hcell, hplace, _⟩ := Layout.cell?_of_indexOf hindex
      -- an axis row has an axis, and that is its cell
      have haxis : o.axis.map JoyCell.axis = some cell := by
        simpa only [ObjectDescriptor.cell?, hid, ObjectId.axis] using hcell
      obtain ⟨a, ha, rfl⟩ := Option.map_eq_some_iff.mp haxis
      simp only [List.foldl_cons, List.foldl_nil, JoyState.replay, hplace, hrow,
        Option.bind_some, ha, JoyState.write]
  placed := fun t c hc => by
    unfold reportAxis at hc
    cases hindex : l.indexOf (.axis number) with
    | none => simp [hindex] at hc
    | some index =>
      obtain rfl : c = _ := by simpa [hindex] using hc
      exact hindex
  ordered := fun t => by
    unfold reportAxis
    cases l.indexOf (.axis number) with
    | none => exact List.nil_sublist _
    | some index => exact List.Sublist.refl _

theorem logged_stickStage (l : Layout) (table : CalibrationTable) (x : Sample) (k : Stick) :
    Stage.Logged l [.axis (l.stickAxis k)] (stickStage l table x k) :=
  .unlessStill (fun t => x.stick k = t.last.stick k) (fun t => t.last.setStick (x.stick k) k)
    fun _ => logged_reportAxis l table (l.stickAxis k) (x.stick k).toInt32

/-- The object that the triggers drive. -/
def Layout.triggerObjects : Layout → List ObjectId
  | .standard => []
  | .extended => [.axis 2]

theorem logged_triggerStage (l : Layout) (table : CalibrationTable) (x : Sample) :
    Stage.Logged l l.triggerObjects (triggerStage l table x) := by
  cases l with
  | standard =>
    have hsilent : triggerStage .standard table x = fun t => (t, []) := by
      funext t
      simp [triggerStage]
    rw [hsilent]
    exact .silent
  | extended =>
    have hgated := Stage.Logged.unlessStill (fun t => ¬ (x.lz ≠ t.last.lz ∨ x.rz ≠ t.last.rz))
      (fun t => { t.last with lz := x.lz, rz := x.rz })
      fun t => logged_reportAxis .extended table 2 (combinedTrigger t.last x.lz x.rz)
    have hstage : triggerStage .extended table x = fun t =>
        if ¬ (x.lz ≠ t.last.lz ∨ x.rz ≠ t.last.rz) then (t, [])
        else reportAxis .extended table 2 (combinedTrigger t.last x.lz x.rz)
          { t with last := { t.last with lz := x.lz, rz := x.rz } } := by
      funext t
      simp only [triggerStage, true_and, ite_not]
    rw [hstage]
    exact hgated

/-! ### Buttons and the hat -/

/-- An announced object stands at its place in the table. -/
theorem indexOf_of_mem_announce {l : Layout} {object : ObjectId} {value : Int32} {c : Change}
    (hc : c ∈ announce l object value) : l.indexOf c.object = some c.index := by
  unfold announce at hc
  cases hindex : l.indexOf object with
  | none => simp [hindex] at hc
  | some index =>
    obtain rfl : c = _ := by simpa [hindex] using hc
    exact hindex

theorem map_object_announce_sublist (l : Layout) (object : ObjectId) (value : Int32) :
    ((announce l object value).map Change.object).Sublist [object] := by
  unfold announce
  cases l.indexOf object with
  | none => exact List.nil_sublist _
  | some index => exact List.Sublist.refl _

/-- Announcing an object that the layout knows writes its cell. -/
theorem replay_announce {l : Layout} {object : ObjectId} {index : Nat}
    (h : l.indexOf object = some index) (value : Int32) (j : JoyState) :
    ∃ cell, l.cell? index = some cell ∧
      (announce l object value).foldl (JoyState.replay l) j = j.write value cell := by
  obtain ⟨_, _, cell, _, _, _, hcell, _⟩ := Layout.cell?_of_indexOf h
  refine ⟨cell, hcell, ?_⟩
  simp only [announce, h, List.foldl_cons, List.foldl_nil]
  exact JoyState.replay_of_cell hcell j

/-- Every button that a bit stands for is in the table. -/
theorem Layout.indexOf_buttonSlot {l : Layout} {bit slot : UInt8}
    (h : l.buttonSlot bit = some slot) : ∃ index, l.indexOf (.button slot) = some index := by
  apply Option.isSome_iff_exists.mp
  cases l with
  | standard =>
    have hmem : slot ∈ standardButtonSlots := List.mem_of_getElem? h
    have hall : ∀ n ∈ standardButtonSlots, (standard.indexOf (.button n)).isSome = true := by
      decide +kernel
    exact hall slot hmem
  | extended =>
    have hall : ∀ n < 10, (extended.indexOf (.button (UInt8.ofNat n))).isSome = true := by decide
    simp only [buttonSlot] at h
    split at h
    · next hlt =>
      obtain rfl := Option.some.inj h
      have hnat : bit.toNat < 10 := UInt8.lt_iff_toNat_lt.mp hlt
      simpa using hall bit.toNat hnat
    · cases h

/-- A button row drives the cell of its number. -/
theorem Layout.cell?_button {l : Layout} {slot : UInt8} {index : Nat}
    (h : l.indexOf (.button slot) = some index) : l.cell? index = some (.button slot) := by
  obtain ⟨o, _, cell, _, hid, hcell, hplace, _⟩ := cell?_of_indexOf h
  rw [hplace, ← hcell]
  simp only [ObjectDescriptor.cell?, hid, ObjectId.button]

/-- The buttons that some bits stand for, in the order of the bits. -/
def Layout.buttonObjects (l : Layout) (bits : List UInt8) : List ObjectId :=
  bits.filterMap fun bit => (l.buttonSlot bit).map ObjectId.button

theorem logged_reportButtons (l : Layout) (x : Sample) (bits : List UInt8) (j : JoyState) :
    (reportButtons l x bits j).2.foldl (JoyState.replay l) j = (reportButtons l x bits j).1 ∧
    (∀ c ∈ (reportButtons l x bits j).2, l.indexOf c.object = some c.index) ∧
    ((reportButtons l x bits j).2.map Change.object).Sublist (l.buttonObjects bits) := by
  induction bits generalizing j with
  | nil => exact ⟨rfl, fun _ hc => absurd hc List.not_mem_nil, List.Sublist.refl _⟩
  | cons bit rest ih =>
    unfold reportButtons
    cases hslot : l.buttonSlot bit with
    | none =>
      have hobjects : l.buttonObjects (bit :: rest) = l.buttonObjects rest := by
        simp [Layout.buttonObjects, hslot]
      rw [hobjects]
      exact ih j
    | some slot =>
      have hobjects : l.buttonObjects (bit :: rest) = .button slot :: l.buttonObjects rest := by
        simp [Layout.buttonObjects, hslot]
      obtain ⟨index, hindex⟩ := Layout.indexOf_buttonSlot hslot
      obtain ⟨hreplayed, hplaced, hordered⟩ := ih (j.setButton slot (x.bit bit))
      refine ⟨?_, fun c hc => ?_, ?_⟩
      · obtain ⟨cell, hcell, hannounce⟩ := replay_announce hindex
          (if x.bit bit then buttonPressed else buttonReleased) j
        obtain rfl : JoyCell.button slot = cell :=
          Option.some.inj ((Layout.cell?_button hindex).symm.trans hcell)
        rw [List.foldl_append, hannounce, JoyState.write_button]
        exact hreplayed
      · rcases List.mem_append.mp hc with h | h
        · exact indexOf_of_mem_announce h
        · exact hplaced c h
      · rw [hobjects, List.map_append]
        exact (map_object_announce_sublist l _ _).append hordered

theorem logged_buttonStage (l : Layout) (x : Sample) :
    Stage.Logged l (l.buttonObjects l.buttonBits) (buttonStage l x) :=
  .unlessStill (f := fun _ t =>
      ({ t with joy := (reportButtons l x l.buttonBits t.joy).1 },
        (reportButtons l x l.buttonBits t.joy).2))
    (fun t => x.buttons = t.last.buttons) (fun t => { t.last with buttons := x.buttons })
    fun _ =>
      { replayed := fun t => (logged_reportButtons l x l.buttonBits t.joy).1
        placed := fun t => (logged_reportButtons l x l.buttonBits t.joy).2.1
        ordered := fun t => (logged_reportButtons l x l.buttonBits t.joy).2.2 }

theorem logged_hatStage (l : Layout) (x : Sample) :
    Stage.Logged l [.hat 0] (hatStage l x) :=
  .unlessStill (f := fun _ t =>
      ({ t with joy := t.joy.setPov (hatValue x.hat) }, announce l (.hat 0) (hatValue x.hat)))
    (fun t => x.hat = t.last.hat) (fun t => { t.last with hat := x.hat })
    fun _ =>
      { replayed := fun t => by cases l <;> rfl
        placed := fun _ _ hc => indexOf_of_mem_announce hc
        ordered := fun _ => map_object_announce_sublist l _ _ }

/-! ## Observations -/

/-- The objects of a layout in the order in which an observation announces them. -/
def Layout.announced (l : Layout) : List ObjectId :=
  [.axis (l.stickAxis .lx)] ++ ([.axis (l.stickAxis .ly)] ++ ([.axis (l.stickAxis .rx)] ++
    ([.axis (l.stickAxis .ry)] ++ (l.triggerObjects ++ (l.buttonObjects l.buttonBits ++
      [.hat 0])))))

theorem Layout.announced_nodup (l : Layout) : l.announced.Nodup := by
  cases l <;> decide

namespace Tracker

theorem logged_observe (l : Layout) (table : CalibrationTable) (x : Sample) :
    Stage.Logged l l.announced (observe l table x) :=
  (logged_stickStage l table x .lx).andThen <| (logged_stickStage l table x .ly).andThen <|
  (logged_stickStage l table x .rx).andThen <| (logged_stickStage l table x .ry).andThen <|
  (logged_triggerStage l table x).andThen <| (logged_buttonStage l x).andThen <|
  logged_hatStage l x

/-- No two changes of an observation are to one cell. -/
theorem distinct_observe (l : Layout) (table : CalibrationTable) (x : Sample) (t : Tracker) :
    (observe l table x t).2.Pairwise fun c d => l.cell? c.index ≠ l.cell? d.index := by
  have logged := logged_observe l table x
  have hobjects : ((observe l table x t).2.map Change.object).Nodup :=
    l.announced_nodup.sublist (logged.ordered t)
  refine (List.pairwise_map.mp hobjects).imp_of_mem fun {c d} hc hd hne hcells => hne ?_
  obtain ⟨o, ho, _, _, hoid, hocell, hoplace, _⟩ := Layout.cell?_of_indexOf (logged.placed t c hc)
  obtain ⟨p, hp, _, _, hpid, hpcell, hpplace, _⟩ := Layout.cell?_of_indexOf (logged.placed t d hd)
  have hsame : o.cell? = p.cell? := by rw [hocell, hpcell, ← hoplace, ← hpplace, hcells]
  rw [← hoid, ← hpid, l.cell?_inj o ho p hp hsame]

variable {σ : Type} (next : σ → UInt64 × σ)

/-- The events of a run of calls, each with the layout of its call. -/
def log : List Observation → Tracker → σ → List (Layout × InputEvent)
  | [], _, _ => []
  | o :: rest, t, s =>
    let first := t.apply o.layout o.table o.sample next s
    first.2.1.map (o.layout, ·) ++ log rest first.1 first.2.2

theorem map_snd_log (os : List Observation) (t : Tracker) (s : σ) :
    (log next os t s).map Prod.snd = (applyAll next os t s).2.1 := by
  induction os generalizing t s with
  | nil => rfl
  | cons o rest ih => simp [log, applyAll, ih, Function.comp_def]

end Tracker

/-- Writes logged events in order. -/
def JoyState.replayLog (j : JoyState) (log : List (Layout × InputEvent)) : JoyState :=
  log.foldl (fun j e => j.replay e.1 e.2.toChange) j

namespace Tracker

variable {σ : Type} (next : σ → UInt64 × σ)

/-- Replaying the events of one call makes the record that it leaves. -/
theorem replay_apply (t : Tracker) (o : Observation) (s : σ) :
    let call := t.apply o.layout o.table o.sample next s
    t.joy.replayLog (call.2.1.map (o.layout, ·)) = call.1.joy := by
  have hlogged := (logged_observe o.layout o.table o.sample).replayed t
  intro call
  have hrecord : call.1.joy = (observe o.layout o.table o.sample t).1.joy := rfl
  rw [hrecord, ← hlogged, ← map_toChange_numbered next (observe o.layout o.table o.sample t).2 s,
    List.foldl_map, JoyState.replayLog, List.foldl_map]
  rfl

theorem replayLog_log (os : List Observation) (t : Tracker) (s : σ) :
    t.joy.replayLog (log next os t s) = (applyAll next os t s).1.joy := by
  induction os generalizing t s with
  | nil => rfl
  | cons o rest ih =>
    rw [log, JoyState.replayLog, List.foldl_append]
    exact (congrArg (JoyState.replayLog · _) (replay_apply next t o s)).trans (ih _ _)

end Tracker

/-- Replaying all events of a run of calls onto a fresh record makes the record of the
tracker.  In each call, whatever came before it, a cell that no event refers to shows what
it showed, and every event refers to the row of its object, whose cell shows its value. -/
theorem replay_log {σ : Type} (next : σ → UInt64 × σ) (os : List Observation) (s : σ) :
    (let log := Tracker.log next os {} s
     let run := Tracker.applyAll next os {} s
     log.map Prod.snd = run.2.1 ∧ ({} : JoyState).replayLog log = run.1.joy) ∧
    ∀ (t : Tracker) (o : Observation) (s : σ),
      let call := t.apply o.layout o.table o.sample next s
      (∀ cell, (∀ e ∈ call.2.1, o.layout.cell? e.index ≠ some cell) →
        ∀ v, call.1.joy.Shows v cell ↔ t.joy.Shows v cell) ∧
      ∀ e ∈ call.2.1, ∃ row cell, o.layout.objects[e.index]? = some row ∧ row.id = e.object ∧
        row.cell? = some cell ∧ call.1.joy.Shows e.value cell := by
  refine ⟨⟨Tracker.map_snd_log next os {} s, Tracker.replayLog_log next os {} s⟩, ?_⟩
  intro t o s call
  have logged := Tracker.logged_observe o.layout o.table o.sample
  have hevents : call.2.1.map InputEvent.toChange =
      (Tracker.observe o.layout o.table o.sample t).2 := map_toChange_numbered next _ s
  have hrecord : call.1.joy =
      (call.2.1.map InputEvent.toChange).foldl (JoyState.replay o.layout) t.joy := by
    rw [hevents, logged.replayed t]
    rfl
  constructor
  · intro cell unwritten v
    rw [hrecord]
    refine JoyState.shows_foldl_of_unwritten (fun c hc => ?_) t.joy v
    obtain ⟨e, he, rfl⟩ := List.mem_map.mp hc
    exact unwritten e he
  · intro e he
    have hc : e.toChange ∈ (Tracker.observe o.layout o.table o.sample t).2 := by
      rw [← hevents]
      exact List.mem_map_of_mem he
    obtain ⟨row, _, cell, hrow, hid, hcell, hplace, hin⟩ :=
      Layout.cell?_of_indexOf (logged.placed t _ hc)
    refine ⟨row, cell, hrow, hid, hcell, ?_⟩
    rw [hrecord, hevents]
    exact JoyState.shows_foldl_of_distinct (Tracker.distinct_observe _ _ _ t) t.joy hc hplace hin

/-- A stick drives the cell that the triggers drove under the layout before, and a cell that
only that layout has keeps what it showed. -/
theorem replay_log_across_layouts :
    let first : Observation := ⟨.extended, [], { rx := 100, lz := 255 }⟩
    let second : Observation := ⟨.standard, [none], { rx := -5, buttons := 1 }⟩
    let run := Tracker.applyAll countUp [first, second] {} 0
    let between := (Tracker.applyAll countUp [first] {} 0).1
    let call := between.apply second.layout second.table second.sample countUp 2
    run.2.1.length = 15 ∧
      ({} : JoyState).replayLog (Tracker.log countUp [first, second] {} 0) = run.1.joy ∧
      call.1.joy.Shows 32763 (.axis .z) ∧ call.1.joy.Shows 32868 (.axis .rx) := by
  intro first second run between call
  obtain ⟨⟨_, hreplayed⟩, hcalls⟩ := replay_log countUp [first, second] 0
  obtain ⟨hkept, hseen⟩ := hcalls between second 2
  refine ⟨by decide +kernel, hreplayed, ?moved, ?kept⟩
  case moved =>
    -- the first event of the second call is the stick's
    obtain ⟨row, cell, hrow, _, hcell, hshows⟩ :=
      hseen ⟨⟨.axis 2, 2, 32763⟩, 2⟩ (by decide +kernel)
    have hz : (Layout.standard.objects[2]?).bind ObjectDescriptor.cell? = some (.axis .z) := rfl
    have hcells : some cell = some (.axis .z) := by
      rw [← hcell, ← hz, hrow, Option.bind_some]
    rw [Option.some.inj hcells] at hshows
    exact hshows
  case kept => exact (hkept (.axis .rx) (by decide +kernel) 32868).mpr (by decide +kernel)

end RemotePad
