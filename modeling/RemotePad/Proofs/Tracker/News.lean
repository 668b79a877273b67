import RemotePad.Proofs.Calibration.Rounding
import RemotePad.Proofs.Tracker.Replay

/-!
# The news of a sample

What an observation announces depends on the stored sample and the new one alone, and it is said
here without stages, field by field.

* `Layout.news`: the objects to announce and their values, in order.  `combinedTrigger_eq`: the
  value of the common axis of the triggers is a rounded part of its reach.
* `Stage.Tells`: what a part of an observation announces of the stored sample.  Parts tell one
  after the other (`Stage.Tells.andThen`), so an observation tells the news (`tells_observe`).
* `drawn` and `afterDraws`: the numbers that a source gives one after the other.  Numbering takes
  them in this order (`sequence_numbered`), and so does an `Emission` of one change at a time.
* `apply_news`: the events of a call are the news, in order, each with the index of its object
  and the next number of the source.
-/

namespace RemotePad

/-! ## News -/

/-- An object and its value. -/
abbrev News := ObjectId × Int32

/-- What a change says, without the place of the object. -/
def Change.news (c : Change) : News := (c.object, c.value)

namespace Layout

/-- The stick fields in the order in which they are looked at, each with the number of its axis. -/
def routes : Layout → List ((Sample → Int16) × UInt8)
  | .standard => [(Sample.lx, 0), (Sample.ly, 1), (Sample.rx, 2), (Sample.ry, 3)]
  | .extended => [(Sample.lx, 0), (Sample.ly, 1), (Sample.rx, 3), (Sample.ry, 4)]

/-- The buttons that the bits of the mask stand for, lowest bit first. -/
def slots : Layout → List UInt8
  | .standard => [1, 2, 0, 3, 4, 5, 8, 9, 10, 11, 6, 7]
  | .extended => [0, 1, 2, 3, 4, 5, 6, 7, 8, 9]

/-- What one stick field has to say when it moved.  Axis `n` is row `n` of the table: it has the
calibration that is listed there, and the default one if none is. -/
def axisNews (table : CalibrationTable) (old new : Sample) (field : Sample → Int16)
    (number : UInt8) : List News :=
  if field new = field old then []
  else
    [(.axis number,
      scaleAxis (field new).toInt32 ((table[number.toNat]?.join).getD .axisDefault))]

/-- Every stick that moved. -/
def stickNews (l : Layout) (table : CalibrationTable) (old new : Sample) : List News :=
  l.routes.flatMap fun (field, number) => axisNews table old new field number

/-- How far the triggers pull their common axis.  The left trigger does if it moved, down to -32768,
and the right one if only that one did, up to 32767.  A level is so many 255ths of that, rounded to
the nearest integer; there is no tie in 255ths. -/
def triggerPull (old new : Sample) : Int :=
  if new.lz ≠ old.lz then -((new.lz.toNat * 32768 + 127) / 255)
  else (new.rz.toNat * 32767 + 127) / 255

/-- The common axis of the triggers when one of them moved, if the layout has such an axis. -/
def triggerNews (l : Layout) (table : CalibrationTable) (old new : Sample) : List News :=
  if l = .extended ∧ (new.lz ≠ old.lz ∨ new.rz ≠ old.rz) then
    [(.axis 2, scaleAxis (Int32.ofInt (triggerPull old new)) ((table[2]?.join).getD .axisDefault))]
  else []

/-- Every button, when the mask changed. -/
def buttonNews (l : Layout) (old new : Sample) : List News :=
  if new.buttons = old.buttons then []
  else l.slots.zipIdx.map fun (slot, bit) =>
    (.button slot, if new.buttons.toNat.testBit bit then 0x80 else 0)

/-- The hat, when it moved: its direction in hundredths of a degree, or none. -/
def hatNews (old new : Sample) : List News :=
  if new.hat = old.hat then []
  else [(.hat 0, if 0 ≤ new.hat ∧ new.hat ≤ 7 then new.hat.toInt32 * 4500 else -1)]

/-- All that a new sample has to say to someone who knows the old one. -/
def news (l : Layout) (table : CalibrationTable) (old new : Sample) : List News :=
  l.stickNews table old new ++ l.triggerNews table old new ++ l.buttonNews old new ++
    hatNews old new

/-- The bits that a layout looks at are the places of its slots, and each stands for the button in
its slot. -/
theorem zipIdx_slots (l : Layout) :
    l.slots.zipIdx =
      l.buttonBits.filterMap fun bit => (l.buttonSlot bit).map fun slot => (slot, bit.toNat) := by
  cases l <;> decide

end Layout

/-! ## What the parts of an observation tell -/

/-- A part of an observation announces what the stored sample makes new. -/
def Stage.Tells (f : Stage) (news : Sample → List News) : Prop :=
  ∀ t, (f t).2.map Change.news = news t.last

/-- Two parts tell what each of them tells alone, if the first one stores nothing that is news to
the second. -/
theorem Stage.Tells.andThen {f g : Stage} {news news' : Sample → List News} (hf : f.Tells news)
    (hg : g.Tells news') (hblind : ∀ t, news' (f t).1.last = news' t.last) :
    (Stage.andThen f g).Tells fun old => news old ++ news' old := by
  intro t
  simp only [Stage.andThen, List.map_append, hf t, hg (f t).1, hblind]

/-- An axis that the layout has is announced, and the stored sample is not touched. -/
theorem reportAxis_of_indexOf {l : Layout} {number : UInt8} {index : Nat}
    (h : l.indexOf (.axis number) = some index) (table : CalibrationTable) (raw : Int32)
    (t : Tracker) :
    (reportAxis l table number raw t).1.last = t.last ∧
      (reportAxis l table number raw t).2.map Change.news =
        [(.axis number, scaleAxis raw (calibrationAt table index))] := by
  simp only [reportAxis, h, List.map_cons, List.map_nil, Change.news, and_self]

theorem Sample.setStick_stick (x : Sample) (k : Stick) : x.setStick (x.stick k) k = x := by
  cases k <;> rfl

theorem tells_stickStage (l : Layout) (table : CalibrationTable) (x : Sample) (k : Stick) :
    (stickStage l table x k).Tells fun old =>
      Layout.axisNews table old x (Sample.stick · k) (l.stickAxis k) := by
  intro t
  simp only [stickStage, Layout.axisNews]
  split
  · rfl
  · exact (reportAxis_of_indexOf (l.indexOf_stickAxis k) table _ _).2

theorem last_stickStage (l : Layout) (table : CalibrationTable) (x : Sample) (k : Stick)
    (t : Tracker) : (stickStage l table x k t).1.last = t.last.setStick (x.stick k) k := by
  unfold stickStage
  split
  · next hstill => rw [hstill, Sample.setStick_stick]
  · exact (reportAxis_of_indexOf (l.indexOf_stickAxis k) table _ _).1

theorem toInt_level (level : UInt8) : level.toUInt32.toInt32.toInt = level.toNat := by
  have hlevel := level.toNat_lt
  show level.toUInt32.toBitVec.toInt = level.toNat
  rw [BitVec.toInt_eq_toNat_bmod, UInt32.toNat_toBitVec, UInt8.toNat_toUInt32]
  simp only [Int.bmod]
  omega

/-- The level of a trigger, in 255ths of its reach, fits into a word. -/
theorem mulDiv_level (level : UInt8) (reach : Int32) :
    ∃ raw, mulDiv level.toUInt32.toInt32 reach 255 = some raw ∧
      raw.toInt = divNearest (level.toNat * reach.toInt) 255 := by
  have hlevel := level.toNat_lt
  have hpull := share_toward reach.toInt (d := 255) (k := level.toNat) (by decide) (by omega)
    (Int.le_refl _) (by omega)
  have hreach := toInt_mem32 reach
  have hfits : least32 ≤ divNearest (level.toNat * reach.toInt) 255 ∧
      divNearest (level.toNat * reach.toInt) 255 ≤ greatest32 := by
    unfold Toward at hpull
    unfold least32 greatest32 at hreach ⊢
    omega
  have hdiv : mulDiv level.toUInt32.toInt32 reach 255 =
      some (Int32.ofInt (divNearest (level.toNat * reach.toInt) 255)) := by
    rw [mulDiv, if_neg (by decide), toInt_level]
    exact if_pos hfits
  exact ⟨_, hdiv, toInt_ofInt32 hfits.1 hfits.2⟩

/-- The combined position of both triggers is the pull of one of them. -/
theorem combinedTrigger_eq (old new : Sample) :
    combinedTrigger old new.lz new.rz = Int32.ofInt (Layout.triggerPull old new) := by
  unfold combinedTrigger Layout.triggerPull
  split
  · obtain ⟨raw, hraw, hvalue⟩ := mulDiv_level new.lz (-32768)
    have hpull : raw.toInt = -((new.lz.toNat * 32768 + 127) / 255) := by
      have hdown : (-32768 : Int32).toInt = -32768 := rfl
      rw [hvalue, hdown, Int.mul_neg, divNearest_neg _ (by decide),
        divNearest_of_nonneg (by omega) (by decide)]
      rfl
    rw [hraw, Option.getD_some, ← hpull, Int32.ofInt_toInt]
  · obtain ⟨raw, hraw, hvalue⟩ := mulDiv_level new.rz 32767
    have hpull : raw.toInt = (new.rz.toNat * 32767 + 127) / 255 := by
      have hup : (32767 : Int32).toInt = 32767 := rfl
      rw [hvalue, hup, divNearest_of_nonneg (by omega) (by decide)]
      rfl
    rw [hraw, Option.getD_some, ← hpull, Int32.ofInt_toInt]

theorem tells_triggerStage (l : Layout) (table : CalibrationTable) (x : Sample) :
    (triggerStage l table x).Tells fun old => l.triggerNews table old x := by
  intro t
  simp only [triggerStage, Layout.triggerNews]
  split
  · next h =>
    obtain ⟨rfl, _⟩ := h
    have hindex : Layout.extended.indexOf (.axis 2) = some 2 := by decide
    rw [← combinedTrigger_eq]
    exact (reportAxis_of_indexOf hindex table _ _).2
  · rfl

/-- Only the extended layout stores the triggers. -/
theorem last_triggerStage (l : Layout) (table : CalibrationTable) (x : Sample) (t : Tracker) :
    (triggerStage l table x t).1.last =
      match l with
      | .standard => t.last
      | .extended => { t.last with lz := x.lz, rz := x.rz } := by
  cases l with
  | standard => simp [triggerStage]
  | extended =>
    simp only [triggerStage, true_and]
    split
    · rfl
    · next still =>
      simp only [ne_eq, not_or, Decidable.not_not] at still
      rw [still.1, still.2]

/-- An object that the layout has is announced. -/
theorem announce_of_indexOf {l : Layout} {object : ObjectId} {index : Nat}
    (h : l.indexOf object = some index) (value : Int32) :
    (announce l object value).map Change.news = [(object, value)] := by
  simp only [announce, h]
  rfl

/-- The buttons of some bits, in the order of the bits. -/
theorem news_reportButtons (l : Layout) (x : Sample) (bits : List UInt8) (j : JoyState) :
    (reportButtons l x bits j).2.map Change.news =
      bits.filterMap fun bit => (l.buttonSlot bit).map fun slot =>
        (.button slot, if x.bit bit then buttonPressed else buttonReleased) := by
  induction bits generalizing j with
  | nil => rfl
  | cons bit rest ih =>
    unfold reportButtons
    cases hslot : l.buttonSlot bit with
    | none => simp only [ih, List.filterMap_cons, hslot, Option.map_none]
    | some slot =>
      obtain ⟨index, hindex⟩ := Layout.indexOf_buttonSlot hslot
      simp only [List.map_append, ih, announce_of_indexOf hindex, List.filterMap_cons, hslot,
        Option.map_some, List.singleton_append]

theorem tells_buttonStage (l : Layout) (x : Sample) :
    (buttonStage l x).Tells fun old => l.buttonNews old x := by
  intro t
  simp only [buttonStage, Layout.buttonNews]
  split
  · rfl
  · rw [news_reportButtons, Layout.zipIdx_slots, List.map_filterMap]
    simp only [Option.map_map]
    rfl

theorem last_buttonStage (l : Layout) (x : Sample) (t : Tracker) :
    (buttonStage l x t).1.last = { t.last with buttons := x.buttons } := by
  unfold buttonStage
  split
  · next hstill => rw [hstill]
  · rfl

theorem tells_hatStage (l : Layout) (x : Sample) :
    (hatStage l x).Tells fun old => Layout.hatNews old x := by
  intro t
  simp only [hatStage, Layout.hatNews]
  split
  · rfl
  · cases l <;> rfl

/-- The sticks tell first, each on the axis that it drives. -/
theorem Layout.stickNews_eq (l : Layout) (table : CalibrationTable) (old new : Sample) :
    l.stickNews table old new =
      axisNews table old new (Sample.stick · .lx) (l.stickAxis .lx) ++
        (axisNews table old new (Sample.stick · .ly) (l.stickAxis .ly) ++
          (axisNews table old new (Sample.stick · .rx) (l.stickAxis .rx) ++
            axisNews table old new (Sample.stick · .ry) (l.stickAxis .ry))) := by
  cases l <;> simp [stickNews, routes, Layout.stickAxis, Sample.stick]

/-- An observation tells the news. -/
theorem tells_observe (l : Layout) (table : CalibrationTable) (x : Sample) :
    (Tracker.observe l table x).Tells fun old => l.news table old x := by
  have fromButtons := (tells_buttonStage l x).andThen (tells_hatStage l x) fun t => by
    rw [last_buttonStage]
    rfl
  have fromTriggers := (tells_triggerStage l table x).andThen fromButtons fun t => by
    rw [last_triggerStage]
    cases l <;> rfl
  have fromRy := (tells_stickStage l table x .ry).andThen fromTriggers fun t => by
    rw [last_stickStage]
    rfl
  have fromRx := (tells_stickStage l table x .rx).andThen fromRy fun t => by
    rw [last_stickStage]
    rfl
  have fromLy := (tells_stickStage l table x .ly).andThen fromRx fun t => by
    rw [last_stickStage]
    rfl
  have fromLx := (tells_stickStage l table x .lx).andThen fromLy fun t => by
    rw [last_stickStage]
    rfl
  intro t
  have told := fromLx t
  simp only [Layout.news, Layout.stickNews_eq, List.append_assoc]
  exact told

/-- The changes of an observation, without their places, are the news. -/
theorem Tracker.map_news_observe (l : Layout) (table : CalibrationTable) (x : Sample)
    (t : Tracker) : (observe l table x t).2.map Change.news = l.news table t.last x :=
  tells_observe l table x t

/-! ## Numbers of the events -/

section Numbers

variable {σ : Type} (next : σ → UInt64 × σ)

/-- A source after some numbers were drawn from it. -/
def afterDraws : σ → Nat → σ
  | s, 0 => s
  | s, n + 1 => afterDraws (next s).2 n

/-- The number that a source gives after some others. -/
def drawn (s : σ) (n : Nat) : UInt64 := (next (afterDraws next s n)).1

/-- Numbering draws one number for each change, in order, and no other. -/
theorem sequence_numbered (changes : List Change) (s : σ) :
    (numbered next changes s).1.map InputEvent.sequence =
        (List.range changes.length).map (drawn next s) ∧
      (numbered next changes s).2 = afterDraws next s changes.length := by
  induction changes generalizing s with
  | nil => exact ⟨rfl, rfl⟩
  | cons c rest ih =>
    obtain ⟨hnumbers, hsource⟩ := ih (next s).2
    refine ⟨?_, hsource⟩
    simp only [numbered, List.map_cons, hnumbers, List.length_cons, List.range_succ_eq_map,
      List.map_map]
    rfl

/-- What has been emitted so far: the events, the source of the next number, and a count. -/
structure Emission (σ : Type) where
  sink : List InputEvent := []
  source : σ
  count : Nat := 0

/-- Pushes one change with the next number. -/
def Emission.emit (out : Emission σ) (c : Change) : Emission σ where
  sink := out.sink ++ [{ c with sequence := (next out.source).1 }]
  source := (next out.source).2
  count := out.count + 1

/-- Changes that are emitted one by one are numbered in order and counted. -/
theorem Emission.foldl_emit (changes : List Change) (out : Emission σ) :
    changes.foldl (Emission.emit next) out =
      { sink := out.sink ++ (numbered next changes out.source).1
        source := (numbered next changes out.source).2
        count := out.count + changes.length } := by
  induction changes generalizing out with
  | nil => simp [numbered]
  | cons c rest ih =>
    rw [List.foldl_cons, ih]
    simp [Emission.emit, numbered, Nat.add_assoc, Nat.add_comm 1]

end Numbers

/-! ## The events of a call -/

/-- A call hands on the news, in order.  Each event has the index of the row of its object, no
object occurs twice, the events take the numbers that the source gives one after the other and
nothing else is drawn.  Emitting the changes one by one comes to the same events and to their
count. -/
theorem apply_news {σ : Type} (next : σ → UInt64 × σ) (s : σ) (t : Tracker) (l : Layout)
    (table : CalibrationTable) (x : Sample) :
    ∃ events source,
      (t.apply l table x next s).2 = (events, source) ∧
      events.map (fun e => (e.object, e.value)) = l.news table t.last x ∧
      (∀ e ∈ events, ∃ row, l.objects[e.index]? = some row ∧ row.id = e.object) ∧
      (events.map fun e => e.object).Nodup ∧
      events.map (fun e => e.sequence) = (List.range events.length).map (drawn next s) ∧
      source = afterDraws next s events.length ∧
      (Tracker.observe l table x t).2.foldl (Emission.emit next) { source := s } =
        { sink := events, source := source, count := events.length } := by
  have logged := Tracker.logged_observe l table x
  have changes := map_toChange_numbered next (Tracker.observe l table x t).2 s
  have length := length_numbered next (Tracker.observe l table x t).2 s
  obtain ⟨hnumbers, hsource⟩ := sequence_numbered next (Tracker.observe l table x t).2 s
  refine ⟨_, _, rfl, ?news, ?placed, ?once, ?numbers, ?source, ?emitted⟩
  case news =>
    have told := tells_observe l table x t
    rw [← changes, List.map_map] at told
    exact told
  case placed =>
    intro e he
    have hchange : e.toChange ∈ (Tracker.observe l table x t).2 := by
      rw [← changes]
      exact List.mem_map_of_mem he
    obtain ⟨row, _, hrow, hid⟩ := Layout.objects_of_indexOf (logged.placed t _ hchange)
    exact ⟨row, hrow, hid⟩
  case once =>
    have hobjects := l.announced_nodup.sublist (logged.ordered t)
    rw [← changes, List.map_map] at hobjects
    exact hobjects
  case numbers =>
    rw [length]
    exact hnumbers
  case source =>
    rw [length]
    exact hsource
  case emitted =>
    rw [Emission.foldl_emit, length]
    simp

/-- When both triggers moved, the left one is heard. -/
example :
    Layout.extended.news [] {} { lz := 255, rz := 255, hat := 2 } =
      [(.axis 2, 0), (.hat 0, 9000)] := by decide

end RemotePad
