/-!
# Raw samples

A `Sample` is what a pad looks like at one moment, before calibration: a mask of
buttons, the hat, two sticks and two triggers.
-/

namespace RemotePad

/-- The raw fields of a pad at one moment. -/
structure Sample where
  /-- One bit per button. -/
  buttons : UInt16 := 0
  /-- A hat step from `0` to `7`; anything else means centered. -/
  hat : Int8 := 0
  /-- Left stick, horizontal. -/
  lx : Int16 := 0
  /-- Left stick, vertical. -/
  ly : Int16 := 0
  /-- Right stick, horizontal. -/
  rx : Int16 := 0
  /-- Right stick, vertical. -/
  ry : Int16 := 0
  /-- Left trigger. -/
  lz : UInt8 := 0
  /-- Right trigger. -/
  rz : UInt8 := 0
  deriving Repr, DecidableEq, Inhabited

end RemotePad
