/-!
# Input objects

A pad is described as a list of objects: axes, buttons and a hat switch.

* `ObjectId` names an object by kind and number.
* `AxisType` says which cell of the joystick record an axis drives; its byte
  offset in that record determines the cell (`AxisType.slot`).
* `ObjectDescriptor` is one row of an object table: id, name, usage, offset.
-/

namespace RemotePad

/-! ## Identity -/

/-- What an object measures. -/
inductive ObjectKind where
  /-- A position on a scale. -/
  | axis
  /-- Pressed or released. -/
  | button
  /-- A direction, or none. -/
  | hat
  deriving Repr, DecidableEq, Inhabited

/-- An object of a pad: its kind, and its number among the objects of that kind. -/
structure ObjectId where
  kind : ObjectKind
  number : UInt8
  deriving Repr, DecidableEq, Inhabited

/-- The axis with the given number. -/
def ObjectId.axis (number : UInt8) : ObjectId := ⟨.axis, number⟩

/-- The button with the given number. -/
def ObjectId.button (number : UInt8) : ObjectId := ⟨.button, number⟩

/-- The hat with the given number. -/
def ObjectId.hat (number : UInt8) : ObjectId := ⟨.hat, number⟩

/-! ## Axes -/

/-- The six axes of a joystick record. -/
inductive AxisType where
  | x | y | z | rx | ry | rz
  deriving Repr, DecidableEq

/-- Byte offset of the axis in the joystick record. -/
def AxisType.offset : AxisType → UInt32
  | .x => 0
  | .y => 4
  | .z => 8
  | .rx => 12
  | .ry => 16
  | .rz => 20

/-- Place of the axis among the six cells of a joystick record. -/
def AxisType.slot : AxisType → Fin 6
  | .x => 0
  | .y => 1
  | .z => 2
  | .rx => 3
  | .ry => 4
  | .rz => 5

theorem AxisType.slot_inj {a b : AxisType} (h : a.slot = b.slot) : a = b := by
  revert h
  cases a <;> cases b <;> decide

/-! ## Usages and descriptors -/

/-- A usage: a page and a number on that page. -/
structure Usage where
  page : UInt16
  usage : UInt16
  deriving Repr, DecidableEq

/-- The page of generic desktop controls. -/
def Usage.genericPage : UInt16 := 1

/-- The page of buttons. -/
def Usage.buttonPage : UInt16 := 9

/-- The usage of a whole gamepad. -/
def Usage.gamepad : Usage := ⟨Usage.genericPage, 5⟩

/-- The usage of a hat switch. -/
def Usage.hatSwitch : Usage := ⟨Usage.genericPage, 57⟩

/-- The usage of an axis: the generic page numbers them from 48 in record order. -/
def Usage.ofAxis (a : AxisType) : Usage :=
  ⟨Usage.genericPage, 48 + UInt16.ofNat a.slot.val⟩

/-- The usage of a button: the button page counts from one. -/
def Usage.ofButton (number : UInt8) : Usage :=
  ⟨Usage.buttonPage, number.toUInt16 + 1⟩

/-- One row of an object table. -/
structure ObjectDescriptor where
  id : ObjectId
  name : String
  usage : Usage
  /-- Byte offset of the object's cell in the joystick record. -/
  offset : UInt32
  /-- The axis that the object is, if it is one. -/
  axis : Option AxisType
  deriving Repr, DecidableEq

/-- Axis number `number`, driving the cell of `a`. -/
def ObjectDescriptor.ofAxis (number : UInt8) (a : AxisType) (name : String) : ObjectDescriptor where
  id := .axis number
  name := name
  usage := .ofAxis a
  offset := a.offset
  axis := some a

/-- Button number `number`; the button cells are single bytes from offset 48. -/
def ObjectDescriptor.ofButton (number : UInt8) (name : String) : ObjectDescriptor where
  id := .button number
  name := name
  usage := .ofButton number
  offset := 48 + number.toUInt32
  axis := none

/-- The only hat switch, at offset 32. -/
def ObjectDescriptor.pov : ObjectDescriptor where
  id := .hat 0
  name := "POV"
  usage := .hatSwitch
  offset := 32
  axis := none

end RemotePad
