import RemotePad.Transport
import RemotePad.Wire.Response

/-!
# Sessions

The server hands out at most one pad at a time, so a session holds the transport,
the binding to the current pad and the numbering of events together.

* `Session.acquire` asks for a pad.  An acceptable answer replaces the binding,
  anything else clears it.
* `Session.release` gives the pad back without waiting for an answer.
* `Session.nextSequence` counts events.
-/

namespace RemotePad

open Wire

/-! ## Bindings -/

/-- The server's name for a pad; never zero. -/
structure GamepadId where
  value : UInt32
  ne_zero : value ≠ 0
  deriving Repr, DecidableEq

/-- The id with the given number, unless it is zero. -/
def GamepadId.ofValue? (value : UInt32) : Option GamepadId :=
  if h : value = 0 then none else some ⟨value, h⟩

/-- An id in words. -/
def GamepadId.text (id : GamepadId) : String :=
  String.ofList (decimal id.value.toNat)

/-- The association with one pad of the server. -/
structure Binding where
  id : GamepadId
  flags : LayoutFlags
  /-- The pad's name, if it was asked for. -/
  name : Option String
  deriving Repr, DecidableEq

/-- The layout under which the pad reports. -/
def Binding.layout (b : Binding) : Layout :=
  b.flags.layout

/-- Reads an answer.  Id and flags are read from the received bytes, the name from
the whole buffer. -/
def Binding.ofResponse (received : Payload) (wantName : Bool) : Except SessionError Binding :=
  match GamepadResponse.decode received.bytes with
  | .error e => .error (.ofDecode e)
  | .ok response =>
    match GamepadId.ofValue? response.id with
    | none => .error .noDevice
    | some id =>
      if !response.flags.isCompatible then
        .error (.incompatibleTransport id.value response.flags.bits)
      else if wantName then
        match GamepadResponse.decodeName received.padded.bytes with
        | .error e => .error (.ofDecode e)
        | .ok name => .ok ⟨id, response.flags, some name⟩
      else .ok ⟨id, response.flags, none⟩

/-! ## Sessions -/

/-- What all devices of a server share. -/
structure Session (τ : Type) where
  link : τ
  binding : Option Binding := none
  /-- The number of the next event. -/
  sequence : UInt64 := 0

namespace Session

variable {τ : Type} [Transport τ]

/-- Opens the transport. -/
def connect (s : Session τ) : Except TransportError Unit × Session τ :=
  let opened := Transport.connect s.link
  (opened.1, { s with link := opened.2 })

/-- Closes the transport. -/
def disconnect (s : Session τ) : Session τ :=
  { s with link := Transport.disconnect s.link }

/-- Whether the transport is open. -/
def isOpen (s : Session τ) : Bool :=
  Transport.isOpen s.link

/-- The id of the bound pad. -/
def boundId (s : Session τ) : Option GamepadId :=
  s.binding.map Binding.id

/-- Receives a datagram. -/
def receive (s : Session τ) : Except TransportError Payload × Session τ :=
  let received := Transport.receive s.link
  (received.1, { s with link := received.2 })

/-- Asks for a pad and reads the answer.  The binding is not touched. -/
def request (s : Session τ) (notify wantName : Bool) :
    Except SessionError Binding × Session τ :=
  let sent := Transport.send s.link (getGamepadRequest notify)
  match sent.1 with
  | .error e => (.error (.transport e), { s with link := sent.2 })
  | .ok () =>
    let received := Transport.receive sent.2
    match received.1 with
    | .error e => (.error (.transport e), { s with link := received.2 })
    | .ok payload => (Binding.ofResponse payload wantName, { s with link := received.2 })

/-- Asks for a pad.  With `notify` the server starts to push state reports.  The
binding becomes the one of the answer; without an acceptable answer there is none
afterwards. -/
def acquire (s : Session τ) (notify wantName : Bool) :
    Except SessionError Binding × Session τ :=
  let asked := s.request notify wantName
  match asked.1 with
  | .ok b => (.ok b, { asked.2 with binding := some b })
  | .error e => (.error e, { asked.2 with binding := none })

/-- Gives the pad back.  Whether the server hears of it does not matter. -/
def release (s : Session τ) : Session τ :=
  { s with link := (Transport.send s.link releaseRequest).2, binding := none }

/-- Takes the number of the next event.  The counter wraps after 64 bits. -/
def nextSequence (s : Session τ) : UInt64 × Session τ :=
  (s.sequence, { s with sequence := s.sequence + 1 })

end Session

end RemotePad
