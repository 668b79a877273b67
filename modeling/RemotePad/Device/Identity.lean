import RemotePad.Object

/-!
# What a device says of itself

`DeviceInstance` is the identity of a discovered gamepad, `DeviceCaps` counts its
objects.  Hosts older than version eight know joysticks only, so the type depends
on the version (`DeviceType.forVersion`).
-/

namespace RemotePad

/-! ## Identity -/

/-- What a device is listed as. -/
inductive DeviceType where
  | gamepad
  | joystickGamepad
  deriving Repr, DecidableEq

/-- The first version with gamepads. -/
def versionWithGamepads : UInt32 := 0x0800

/-- What a gamepad is listed as for a version. -/
def DeviceType.forVersion (version : UInt32) : DeviceType :=
  if versionWithGamepads ≤ version then .gamepad else .joystickGamepad

/-- The identity of a device. -/
structure DeviceInstance where
  productName : String
  instanceName : String
  vid : UInt16
  pid : UInt16
  deviceType : DeviceType
  usagePage : UInt16
  usage : UInt16
  path : String
  deriving Repr, DecidableEq

/-- Vendor of every gamepad of the bridge. -/
def vendorId : UInt16 := 0x045E

/-- Product of every gamepad of the bridge. -/
def productId : UInt16 := 0x028E

/-- Path of every gamepad of the bridge. -/
def devicePath : String := "virtual#vid_045e&pid_028e&ig_00"

/-- The identity of a gamepad with a name. -/
def DeviceInstance.gamepad (name : String) (version : UInt32) : DeviceInstance where
  productName := name
  instanceName := name
  vid := vendorId
  pid := productId
  deviceType := .forVersion version
  usagePage := Usage.gamepad.page
  usage := Usage.gamepad.usage
  path := devicePath

/-- Product and vendor in one word, the product high. -/
def DeviceInstance.vidPid (d : DeviceInstance) : UInt32 :=
  (d.pid.toUInt32 <<< 16) ||| d.vid.toUInt32

/-! ## Capabilities -/

/-- How a device is shared among hosts. -/
inductive CooperativeLevel where
  | nonExclusiveBackground
  deriving Repr, DecidableEq

/-- The objects of a device in numbers, and its revisions. -/
structure DeviceCaps where
  axes : Nat
  buttons : Nat
  povs : Nat
  firmwareRevision : UInt32
  hardwareRevision : UInt32
  cooperative : CooperativeLevel
  deriving Repr, DecidableEq

/-! ## Properties -/

/-- What a host may ask of a device. -/
inductive Property where
  | productName
  | instanceName
  | vidPid
  | joystickId
  | guidAndPath
  | bufferSize
  deriving Repr, DecidableEq

/-- The class of a device path. -/
inductive DeviceClass where
  | hid
  deriving Repr, DecidableEq

/-- The answer to a property query. -/
inductive PropertyValue where
  | text (value : String)
  | dword (value : UInt32)
  | path (deviceClass : DeviceClass) (path : String)
  deriving Repr, DecidableEq

end RemotePad
