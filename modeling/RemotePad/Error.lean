import RemotePad.Wire.Error

/-!
# Errors

Each layer has its own errors, and each knows what it makes of the errors below
it.

* `TransportError`: sockets.
* `SessionError`: the talk with the server.  A datagram of the wrong kind is a
  `protocolMismatch`, any other fault of a datagram is `malformed`.
* `DeviceError`: what a host sees.  Whatever goes wrong below a device means that
  the device was not found.
-/

namespace RemotePad

/-! ## Transport -/

/-- What can go wrong with a socket. -/
inductive TransportError where
  /-- A stage of the socket setup failed. -/
  | setup (stage text : String)
  /-- There is no socket. -/
  | notOpen
  /-- Nothing was received in time. -/
  | timeout
  /-- The socket failed. -/
  | io (text : String)
  deriving Repr, DecidableEq

/-- The error in words. -/
def TransportError.message : TransportError → String
  | .setup stage text => "socket setup failed at `" ++ stage ++ "`: " ++ text
  | .notOpen => "transport is not open"
  | .timeout => "receive timed out"
  | .io text => "socket I/O failed: " ++ text

/-- Whether nothing worse happened than that nothing arrived. -/
def TransportError.isTimeout (e : TransportError) : Bool :=
  e = .timeout

/-! ## Session -/

/-- What can go wrong when a pad is requested. -/
inductive SessionError where
  | transport (cause : TransportError)
  /-- The answer is of another kind. -/
  | protocolMismatch (expected found : UInt8)
  /-- The answer cannot be read. -/
  | malformed (cause : Wire.DecodeError)
  /-- The server has no pad. -/
  | noDevice
  /-- The pad cannot be reached from here. -/
  | incompatibleTransport (id : UInt32) (flags : UInt8)
  deriving Repr, DecidableEq

/-- What a fault of the answer means for the session. -/
def SessionError.ofDecode : Wire.DecodeError → SessionError
  | .unexpectedCode expected found => .protocolMismatch expected found
  | e => .malformed e

/-- The error in words. -/
def SessionError.message : SessionError → String
  | .transport cause => cause.message
  | .protocolMismatch expected found =>
    "protocol mismatch: expected response " ++ String.ofList (decimal expected.toNat) ++
      ", got " ++ String.ofList (decimal found.toNat)
  | .malformed cause => "malformed response: " ++ cause.message
  | .noDevice => "no gamepad available"
  | .incompatibleTransport id flags =>
    "gamepad " ++ String.ofList (decimal id.toNat) ++
      " is bound to an incompatible transport (flags 0x" ++ String.ofList (hexByte flags) ++ ")"

/-- Whether the server answered properly that there is no pad for us. -/
def SessionError.isDeviceMissing : SessionError → Bool
  | .noDevice => true
  | .incompatibleTransport _ _ => true
  | _ => false

/-! ## Device -/

/-- What a host is told. -/
inductive DeviceError where
  | notFound
  | notAcquired
  | closed
  | unsupported
  | objectNotFound
  deriving Repr, DecidableEq

/-- The error in words. -/
def DeviceError.message : DeviceError → String
  | .notFound => "device not found"
  | .notAcquired => "device is not acquired"
  | .closed => "device is closed"
  | .unsupported => "property not supported"
  | .objectNotFound => "object not found"

/-- What a session error means for a device. -/
def DeviceError.ofSession (_ : SessionError) : DeviceError := .notFound

/-- What a transport error means for a device. -/
def DeviceError.ofTransport (_ : TransportError) : DeviceError := .notFound

end RemotePad
