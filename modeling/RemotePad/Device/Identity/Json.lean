import RemotePad.Device.Identity
import RemotePad.Json.Record

/-!
# Identities and capabilities as JSON

`DeviceInstance` and `DeviceCaps` are records of texts, numbers and named choices.
-/

namespace RemotePad

/-! ## Choices -/

/-- The name of a device type. -/
def DeviceType.name : DeviceType → String
  | .gamepad => "Gamepad"
  | .joystickGamepad => "JoystickGamepad"

/-- Reads a device type. -/
def DeviceType.ofJson? : Json → Option DeviceType :=
  Json.choice? ([DeviceType.gamepad, .joystickGamepad].map fun t => (t.name, t))

/-- The name of a cooperative level. -/
def CooperativeLevel.name : CooperativeLevel → String
  | .nonExclusiveBackground => "NonExclusiveBackground"

/-- Reads a cooperative level. -/
def CooperativeLevel.ofJson? : Json → Option CooperativeLevel :=
  Json.choice? ([CooperativeLevel.nonExclusiveBackground].map fun l => (l.name, l))

/-! ## Identity -/

namespace DeviceInstance

/-- Reads an identity from a record. -/
def ofMembers? (members : Json.Members) : Option DeviceInstance := do
  let productName ← Json.required members "product_name" Json.text?
  let instanceName ← Json.required members "instance_name" Json.text?
  let vid ← Json.required members "vid" Json.word16?
  let pid ← Json.required members "pid" Json.word16?
  let deviceType ← Json.required members "device_type" DeviceType.ofJson?
  let usagePage ← Json.required members "usage_page" Json.word16?
  let usage ← Json.required members "usage" Json.word16?
  let path ← Json.required members "path" Json.text?
  return ⟨.ofList productName, .ofList instanceName, vid, pid, deviceType, usagePage, usage,
    .ofList path⟩

/-- Reads an identity. -/
def ofJson? (text : List Char) : Option DeviceInstance :=
  ((Json.parse? text).bind Json.record?).bind ofMembers?

/-- The written form of an identity. -/
def json (d : DeviceInstance) : List Char :=
  Json.writeRecord
    [ ("product_name", Json.writeText d.productName.toList),
      ("instance_name", Json.writeText d.instanceName.toList),
      ("vid", decimal d.vid.toNat),
      ("pid", decimal d.pid.toNat),
      ("device_type", Json.writeText d.deviceType.name.toList),
      ("usage_page", decimal d.usagePage.toNat),
      ("usage", decimal d.usage.toNat),
      ("path", Json.writeText d.path.toList) ]

end DeviceInstance

/-! ## Capabilities -/

namespace DeviceCaps

/-- The greatest number of objects that a record can say. -/
def maxCount : Nat := 18446744073709551615

/-- Reads capabilities from a record. -/
def ofMembers? (members : Json.Members) : Option DeviceCaps := do
  let axes ← Json.required members "axes" (Json.nat? maxCount)
  let buttons ← Json.required members "buttons" (Json.nat? maxCount)
  let povs ← Json.required members "povs" (Json.nat? maxCount)
  let firmwareRevision ← Json.required members "firmware_revision" Json.word32?
  let hardwareRevision ← Json.required members "hardware_revision" Json.word32?
  let cooperative ← Json.required members "cooperative" CooperativeLevel.ofJson?
  return ⟨axes, buttons, povs, firmwareRevision, hardwareRevision, cooperative⟩

/-- Reads capabilities. -/
def ofJson? (text : List Char) : Option DeviceCaps :=
  ((Json.parse? text).bind Json.record?).bind ofMembers?

/-- The written form of capabilities. -/
def json (c : DeviceCaps) : List Char :=
  Json.writeRecord
    [ ("axes", decimal c.axes),
      ("buttons", decimal c.buttons),
      ("povs", decimal c.povs),
      ("firmware_revision", decimal c.firmwareRevision.toNat),
      ("hardware_revision", decimal c.hardwareRevision.toNat),
      ("cooperative", Json.writeText c.cooperative.name.toList) ]

end DeviceCaps

end RemotePad
