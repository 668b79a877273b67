import RemotePad.Calibration
import RemotePad.JoyState
import RemotePad.Sample

/-!
# From samples to changes

A `Tracker` keeps the last sample and the joystick record.  `Tracker.observe`
compares a new sample with the last one field by field and announces what
changed:

* the four sticks, each calibrated by the entry of the axis it drives;
* under the extended layout both triggers on one axis.  If both moved, only the
  left one drives it;
* the buttons: any change of the mask announces every button of the layout;
* the hat.

Each part is a `Stage`: it updates the tracker and announces changes.
-/

namespace RemotePad

/-! ## Fields of a sample -/

/-- The four stick positions of a sample. -/
inductive Stick where
  | lx | ly | rx | ry
  deriving Repr, DecidableEq

/-- A stick position of a sample. -/
def Sample.stick (s : Sample) : Stick → Int16
  | .lx => s.lx
  | .ly => s.ly
  | .rx => s.rx
  | .ry => s.ry

/-- A sample with one stick position replaced. -/
def Sample.setStick (s : Sample) (v : Int16) : Stick → Sample
  | .lx => { s with lx := v }
  | .ly => { s with ly := v }
  | .rx => { s with rx := v }
  | .ry => { s with ry := v }

/-- Whether a bit of the button mask is set. -/
def Sample.bit (s : Sample) (bit : UInt8) : Bool :=
  s.buttons.toNat.testBit bit.toNat

/-- The number of the axis that a stick position drives. -/
def Layout.stickAxis : Layout → Stick → UInt8
  | _, .lx => 0
  | _, .ly => 1
  | .standard, .rx => 2
  | .standard, .ry => 3
  | .extended, .rx => 3
  | .extended, .ry => 4

/-! ## Values -/

/-- Hundredths of a degree per hat step. -/
def hatStep : Int32 := 4500

/-- The reported direction of a hat position. -/
def hatValue (hat : Int8) : Int32 :=
  if 0 ≤ hat ∧ hat ≤ 7 then hat.toInt32 * hatStep else hatCentered

/-- Both triggers as one raw value: the left one pulls toward the negative end, the
right one toward the positive end.  When both moved, the left one wins. -/
def combinedTrigger (previous : Sample) (lz rz : UInt8) : Int32 :=
  if lz ≠ previous.lz then (mulDiv lz.toUInt32.toInt32 (-32768) 255).getD 0
  else (mulDiv rz.toUInt32.toInt32 32767 255).getD 0

/-- Calibrations by table index; a missing entry means `Calibration.axisDefault`. -/
abbrev CalibrationTable := List (Option Calibration)

/-- The calibration of the object at a table index. -/
def calibrationAt (table : CalibrationTable) (index : Nat) : Calibration :=
  (table[index]?.join).getD Calibration.axisDefault

/-! ## Stages -/

/-- The last sample and the state built from all samples so far. -/
structure Tracker where
  last : Sample := {}
  joy : JoyState := {}
  deriving Repr, DecidableEq, Inhabited

/-- A part of an observation: it updates the tracker and announces changes. -/
abbrev Stage := Tracker → Tracker × List Change

/-- One stage after another. -/
def Stage.andThen (f g : Stage) : Stage := fun t =>
  let first := f t
  let second := g first.1
  (second.1, first.2 ++ second.2)

/-- Reports a raw value on an axis of the layout. -/
def reportAxis (l : Layout) (table : CalibrationTable) (number : UInt8) (raw : Int32) : Stage :=
  fun t =>
    match l.indexOf (.axis number) with
    | none => (t, [])
    | some index =>
      let value := scaleAxis raw (calibrationAt table index)
      let joy :=
        match l.objects[index]?.bind ObjectDescriptor.axis with
        | some a => t.joy.setAxis a value
        | none => t.joy
      ({ t with joy := joy }, [⟨.axis number, index, value⟩])

/-- Reports a stick position that moved. -/
def stickStage (l : Layout) (table : CalibrationTable) (sample : Sample) (stick : Stick) : Stage :=
  fun t =>
    if sample.stick stick = t.last.stick stick then (t, [])
    else
      reportAxis l table (l.stickAxis stick) (sample.stick stick).toInt32
        { t with last := t.last.setStick (sample.stick stick) stick }

/-- Reports both triggers on axis 2; only the extended layout has such an axis. -/
def triggerStage (l : Layout) (table : CalibrationTable) (sample : Sample) : Stage :=
  fun t =>
    if l = .extended ∧ (sample.lz ≠ t.last.lz ∨ sample.rz ≠ t.last.rz) then
      reportAxis l table 2 (combinedTrigger t.last sample.lz sample.rz)
        { t with last := { t.last with lz := sample.lz, rz := sample.rz } }
    else (t, [])

/-- Announces an object of the layout; an object that the layout does not have is
passed over. -/
def announce (l : Layout) (object : ObjectId) (value : Int32) : List Change :=
  match l.indexOf object with
  | some index => [⟨object, index, value⟩]
  | none => []

/-- Writes and announces the buttons that the given bits stand for, in order. -/
def reportButtons (l : Layout) (sample : Sample) : List UInt8 → JoyState → JoyState × List Change
  | [], joy => (joy, [])
  | bit :: bits, joy =>
    match l.buttonSlot bit with
    | none => reportButtons l sample bits joy
    | some slot =>
      let rest := reportButtons l sample bits (joy.setButton slot (sample.bit bit))
      let value := if sample.bit bit then buttonPressed else buttonReleased
      (rest.1, announce l (.button slot) value ++ rest.2)

/-- The bits of the mask that a layout looks at, lowest first. -/
def Layout.buttonBits (l : Layout) : List UInt8 :=
  (List.range l.buttonCount.toNat).map UInt8.ofNat

/-- Announces every button when the mask changed. -/
def buttonStage (l : Layout) (sample : Sample) : Stage :=
  fun t =>
    if sample.buttons = t.last.buttons then (t, [])
    else
      let reported := reportButtons l sample l.buttonBits t.joy
      ({ last := { t.last with buttons := sample.buttons }, joy := reported.1 }, reported.2)

/-- Announces a hat that moved. -/
def hatStage (l : Layout) (sample : Sample) : Stage :=
  fun t =>
    if sample.hat = t.last.hat then (t, [])
    else
      ({ last := { t.last with hat := sample.hat }, joy := t.joy.setPov (hatValue sample.hat) },
        announce l (.hat 0) (hatValue sample.hat))

/-! ## Observation -/

/-- Compares a sample with the last one and announces every object whose raw value
changed: sticks, triggers, buttons, hat, in this order. -/
def Tracker.observe (l : Layout) (table : CalibrationTable) (sample : Sample) : Stage :=
  Stage.andThen (stickStage l table sample .lx) <|
  Stage.andThen (stickStage l table sample .ly) <|
  Stage.andThen (stickStage l table sample .rx) <|
  Stage.andThen (stickStage l table sample .ry) <|
  Stage.andThen (triggerStage l table sample) <|
  Stage.andThen (buttonStage l sample) (hatStage l sample)

/-- Observes a sample and numbers what changed from a source of numbers. -/
def Tracker.apply {σ : Type} (t : Tracker) (l : Layout) (table : CalibrationTable)
    (sample : Sample) (next : σ → UInt64 × σ) (s : σ) : Tracker × List InputEvent × σ :=
  let observed := Tracker.observe l table sample t
  (observed.1, numbered next observed.2 s)

end RemotePad
