import RemotePad.Event
import RemotePad.Layout

/-!
# The joystick record

`JoyState` is the immediate state of a device: six axis cells, four hat cells
and thirty-two button cells.
-/

namespace RemotePad

/-- The immediate state of a device. -/
structure JoyState where
  /-- One cell per axis, in the order of `AxisType.slot`. -/
  axes : Vector Int32 6 := Vector.replicate 6 0
  /-- Directions; only the first one is ever driven. -/
  pov : Vector Int32 4 := Vector.replicate 4 hatCentered
  /-- One cell per button; the highest bit says that it is pressed. -/
  buttons : Vector UInt8 32 := Vector.replicate 32 0
  deriving Repr, DecidableEq

instance : Inhabited JoyState := ⟨{}⟩

namespace JoyState

/-- Whether the button with the given number is pressed; a number without a cell is
not. -/
def isPressed (j : JoyState) (button : Nat) : Bool :=
  j.buttons[button]?.any fun cell => cell &&& 0x80 != 0

/-- Writes the cell of an axis. -/
def setAxis (j : JoyState) (a : AxisType) (value : Int32) : JoyState :=
  { j with axes := j.axes.set a.slot.val value a.slot.isLt }

/-- Writes the cell of a button. -/
def setButton (j : JoyState) (slot : UInt8) (pressed : Bool) : JoyState :=
  { j with buttons := j.buttons.setIfInBounds slot.toNat (if pressed then 0x80 else 0) }

/-- Writes the first hat cell. -/
def setPov (j : JoyState) (value : Int32) : JoyState :=
  { j with pov := j.pov.set 0 value }

end JoyState

end RemotePad
