import RemotePad.Rounding

/-!
# Calibration of raw values

A `Calibration` record says which logical values an axis delivers, which
physical range it reports, and how much of each half is dead or saturated.

* `scaleLinear` maps the logical range straight onto the physical one.
* `scaleAxis` splits the range at its center.  Each half is a `Window`: below
  it the axis rests at one end, above it at the other, and inside it the value
  goes along a straight line (`Window.place`).

Dead zone and saturation are given in ten-thousandths of a half.
-/

namespace RemotePad

/-! ## Records -/

/-- Full scale of dead zone and saturation. -/
def percentScale : Int32 := 10000

/-- The calibration of one object. -/
structure Calibration where
  /-- Smallest raw value. -/
  logicalMin : Int32
  /-- Greatest raw value. -/
  logicalMax : Int32
  /-- Reported value at the negative end. -/
  rangeMin : Int32
  /-- Reported value at the positive end. -/
  rangeMax : Int32
  /-- Part of each half that rests at the center. -/
  deadzone : Int32
  /-- Part of each half after which the end is reached. -/
  saturation : Int32
  /-- Smallest step the object reports; informative only. -/
  granularity : Int32
  deriving Repr, DecidableEq

/-- Signed 16-bit sticks reported as `0` to `65535` without a dead zone. -/
def Calibration.axisDefault : Calibration where
  logicalMin := -32768
  logicalMax := 32767
  rangeMin := 0
  rangeMax := 65535
  deadzone := 0
  saturation := percentScale
  granularity := 1

instance : Inhabited Calibration := ⟨Calibration.axisDefault⟩

/-! ## Linear scaling -/

/-- The logical range mapped straight onto the physical range. -/
def scaleLinear (raw : Int32) (c : Calibration) : Int32 :=
  clamp32 (c.rangeMin.toInt +
    mulDivSpan (raw.toInt - c.logicalMin.toInt)
      (c.rangeMax.toInt - c.rangeMin.toInt)
      (c.logicalMax.toInt - c.logicalMin.toInt))

/-! ## Centered scaling -/

/-- The center of a range.  A range that starts at zero has its center rounded
down, any other one rounded half away from zero. -/
def midpoint (lo hi : Int32) : Int32 :=
  if lo = 0 then Int32.ofInt (hi.toInt / 2)
  else clamp32 (divNearest (lo.toInt + hi.toInt) 2)

/-- The given ten-thousandths of a span; `0` when the product does not fit. -/
def percentOf (span percent : Int32) : Int32 :=
  (mulDiv span percent percentScale).getD 0

/-- One half of an axis: the logical interval from `lo` to `hi` is spread over
the physical values from `outLo` to `outHi`. -/
structure Window where
  lo : Int32
  hi : Int32
  outLo : Int32
  outHi : Int32
  deriving Repr, DecidableEq

/-- The physical value of `v`: an end at or beyond it, the rounded straight line
between the ends. -/
def Window.place (w : Window) (v : Int32) : Int32 :=
  if v ≤ w.lo then w.outLo
  else if w.hi ≤ v then w.outHi
  else clamp32 (w.outLo.toInt +
    mulDivSpan (v.toInt - w.lo.toInt) (w.outHi.toInt - w.outLo.toInt) (w.hi.toInt - w.lo.toInt))

/-- The center of the logical range. -/
def Calibration.logicalCenter (c : Calibration) : Int32 :=
  midpoint c.logicalMin c.logicalMax

/-- The center of the physical range. -/
def Calibration.physicalCenter (c : Calibration) : Int32 :=
  midpoint c.rangeMin c.rangeMax

/-- The negative half, measured from the logical center: it saturates at its low
end and is dead at its high end. -/
def Calibration.lowerWindow (c : Calibration) : Window :=
  let side := satSub32 c.logicalMin c.logicalCenter
  { lo := percentOf side c.saturation
    hi := percentOf side c.deadzone
    outLo := c.rangeMin
    outHi := c.physicalCenter }

/-- The positive half, measured from the logical center: it is dead at its low
end and saturates at its high end. -/
def Calibration.upperWindow (c : Calibration) : Window :=
  let side := satSub32 c.logicalMax c.logicalCenter
  { lo := percentOf side c.deadzone
    hi := percentOf side c.saturation
    outLo := c.physicalCenter
    outHi := c.rangeMax }

/-- The half that a deflection belongs to; the center belongs to the lower one. -/
def Calibration.windowAt (c : Calibration) (deflection : Int32) : Window :=
  if deflection ≤ 0 then c.lowerWindow else c.upperWindow

/-- The deflection of a raw value: its distance from the logical center, held
inside 32 bits. -/
def Calibration.deflection (c : Calibration) (raw : Int32) : Int32 :=
  satSub32 raw c.logicalCenter

/-- Centered mapping with a dead zone and a saturation limit on each half. -/
def scaleAxis (raw : Int32) (c : Calibration) : Int32 :=
  (c.windowAt (c.deflection raw)).place (c.deflection raw)

end RemotePad
