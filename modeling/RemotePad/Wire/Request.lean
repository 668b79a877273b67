import RemotePad.Wire.Datagram

/-!
# Requests

The first byte of every datagram is its code.  Two requests go out: one asks for
the pad, with or without state reports afterwards, the other gives it back.
-/

namespace RemotePad.Wire

/-- Code of the request for a pad and of its answer. -/
def codeGetGamepad : UInt8 := 8

/-- Code of a state report. -/
def codeState : UInt8 := 9

/-- Code of the release of a pad. -/
def codeRelease : UInt8 := 10

/-- The request for a pad.  With `notify` the server is to push state reports. -/
def getGamepadRequest (notify : Bool) : Datagram :=
  .ofBytes [codeGetGamepad, 0, if notify then 1 else 0]

/-- The release of the pad. -/
def releaseRequest : Datagram :=
  .ofBytes [codeRelease]

end RemotePad.Wire
