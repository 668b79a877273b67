import RemotePad.Calibration
import RemotePad.Json.Record

/-!
# Calibrations as JSON

A calibration is a record of seven integers.
-/

namespace RemotePad

namespace Calibration

/-- Reads a calibration from a record. -/
def ofMembers? (members : Json.Members) : Option Calibration := do
  let logicalMin ← Json.required members "logical_min" Json.int32?
  let logicalMax ← Json.required members "logical_max" Json.int32?
  let rangeMin ← Json.required members "range_min" Json.int32?
  let rangeMax ← Json.required members "range_max" Json.int32?
  let deadzone ← Json.required members "deadzone" Json.int32?
  let saturation ← Json.required members "saturation" Json.int32?
  let granularity ← Json.required members "granularity" Json.int32?
  return ⟨logicalMin, logicalMax, rangeMin, rangeMax, deadzone, saturation, granularity⟩

/-- Reads a calibration. -/
def ofJson? (text : List Char) : Option Calibration :=
  ((Json.parse? text).bind Json.record?).bind ofMembers?

/-- The written form of a calibration. -/
def json (c : Calibration) : List Char :=
  Json.writeRecord
    [ ("logical_min", signedDecimal c.logicalMin.toInt),
      ("logical_max", signedDecimal c.logicalMax.toInt),
      ("range_min", signedDecimal c.rangeMin.toInt),
      ("range_max", signedDecimal c.rangeMax.toInt),
      ("deadzone", signedDecimal c.deadzone.toInt),
      ("saturation", signedDecimal c.saturation.toInt),
      ("granularity", signedDecimal c.granularity.toInt) ]

end Calibration

end RemotePad
