import RemotePad.Device.Identity
import RemotePad.Layout.Walk
import RemotePad.Session
import RemotePad.Signal
import RemotePad.Tracker
import RemotePad.Wire.Report

/-!
# Gamepad devices

A device is created while the server has a pad and lives through

    create → bound → acquire → acquired → unacquire → bound → close → closed

Its input arrives as state reports over a session that it shares with other
devices; `Shared` is that session together with the flags of all wait handles.

* `Device.discover` and `Device.create` look for a pad without asking for reports.
* `Device.acquire` asks for reports; `Device.unacquire` gives the pad back and
  closes the transport.
* `Device.read` takes one datagram and never fails for lack of input.
* `Device.unacquire` waits until the acquisition is over.  It and what is built on
  it answer `none` when that wait would not end.
-/

namespace RemotePad

open Wire

/-! ## Shared ground -/

/-- What devices share: the session, and the flags of all wait handles. -/
structure Shared (τ : Type) where
  session : Session τ
  signals : SignalTable := {}

/-- The stages of a device's life. -/
inductive Lifecycle where
  | closed
  | bound
  | acquired
  deriving Repr, DecidableEq

/-- A gamepad as a host sees it. -/
structure Device where
  /-- Name of the device, made from the id of the pad it was created for. -/
  id : String
  identity : DeviceInstance
  /-- Layout of the pad that was acquired last. -/
  layout : Layout
  /-- Calibration by table index; only axes have one. -/
  calibrations : CalibrationTable
  tracker : Tracker := {}
  lifecycle : Lifecycle := .bound
  /-- Raised when an acquisition is over; closed devices have none. -/
  gate : Option WaitHandle
  /-- Raised when a sample produced events. -/
  notify : Option WaitHandle := none
  deriving Repr, DecidableEq

namespace Device

variable {τ : Type} [Transport τ]

/-! ## Finding a pad -/

/-- Opens the transport anew and asks for a pad without reports.  Whatever goes
wrong, there is nothing to find. -/
def discover (s : Session τ) (version : UInt32) :
    Except DeviceError DeviceInstance × Session τ :=
  let opened := s.connect
  match opened.1 with
  | .error _ => (.error .notFound, opened.2)
  | .ok () =>
    let asked := opened.2.acquire false true
    match asked.1 with
    | .error _ => (.error .notFound, asked.2)
    | .ok b => (.ok (.gamepad (b.name.getD "") version), asked.2)

/-- The identities that can be found: one or none. -/
def probe (s : Session τ) (version : UInt32) : List DeviceInstance × Session τ :=
  let found := discover s version
  match found.1 with
  | .ok i => ([i], found.2)
  | .error _ => ([], found.2)

/-- The calibrations of a device that nobody calibrated. -/
def defaultCalibrations (l : Layout) : CalibrationTable :=
  l.objects.map fun o => if o.id.kind = .axis then some Calibration.axisDefault else none

/-- Finds a pad and makes a device for it, bound but not acquired. -/
def create (s : Shared τ) (version : UInt32) : Except DeviceError Device × Shared τ :=
  let found := discover s.session version
  match found.1, found.2.binding with
  | .ok identity, some b =>
    let made := s.signals.fresh
    (.ok
      { id := "gamepad:" ++ b.id.text
        identity := identity
        layout := b.layout
        calibrations := defaultCalibrations b.layout
        gate := some made.1 },
      { session := found.2, signals := made.2 })
  | .error e, _ => (.error e, { s with session := found.2 })
  | .ok _, none => (.error .notFound, { s with session := found.2 })

/-! ## Acquiring and giving back -/

/-- Takes over the layout of a pad.  A new layout means new calibrations and a
tracker that has seen nothing. -/
def adopt (d : Device) (l : Layout) : Device :=
  if l = d.layout then d
  else { d with layout := l, calibrations := defaultCalibrations l, tracker := {} }

/-- Opens the transport if it is closed and asks for a pad with reports. -/
def requestInput (s : Session τ) : Except DeviceError Binding × Session τ :=
  let opened := if s.isOpen then (.ok (), s) else s.connect
  match opened.1 with
  | .error e => (.error (.ofTransport e), opened.2)
  | .ok () =>
    let asked := opened.2.acquire true false
    (asked.1.mapError .ofSession, asked.2)

/-- Asks for reports.  The gate is raised even when that fails, so that nobody
waits in vain. -/
def acquire (d : Device) (s : Shared τ) : Except DeviceError Unit × Device × Shared τ :=
  match d.lifecycle with
  | .closed => (.error .closed, d, s)
  | .acquired => (.ok (), d, s)
  | .bound =>
    let asked := requestInput s.session
    let shared := { session := asked.2, signals := s.signals.raise? d.gate }
    match asked.1 with
    | .ok b => (.ok (), { d.adopt b.layout with lifecycle := .acquired }, shared)
    | .error _ => (.error .notFound, d, shared)

/-- Waits at the gate; a device without a gate does not wait. -/
def passGate (d : Device) (signals : SignalTable) : Option Unit :=
  match d.gate with
  | some h => signals.wait? h
  | none => some ()

/-- Gives an acquired pad back and closes the transport. -/
def unacquire (d : Device) (s : Shared τ) : Option (Device × Shared τ) :=
  if d.lifecycle = .acquired then
    (d.passGate s.signals).map fun _ =>
      ({ d with lifecycle := .bound }, { s with session := s.session.release.disconnect })
  else some (d, s)

/-- Gives an acquired pad back and drops the wait handles for good. -/
def close (d : Device) (s : Shared τ) : Option (Device × Shared τ) :=
  if d.lifecycle = .closed then some (d, s)
  else
    (d.unacquire s).map fun r =>
      ({ r.1 with gate := none, notify := none, lifecycle := .closed }, r.2)

/-! ## Reading -/

/-- Takes in a state report of the bound pad and raises the notification when it
produced events; a report of another pad is passed over. -/
def accept (d : Device) (report : StateReport) (s : Shared τ) :
    List InputEvent × Device × Shared τ :=
  if s.session.boundId.map GamepadId.value = some report.id then
    let applied :=
      d.tracker.apply d.layout d.calibrations report.sample Session.nextSequence s.session
    (applied.2.1, { d with tracker := applied.1 },
      { session := applied.2.2
        signals := if applied.2.1.isEmpty then s.signals else s.signals.raise? d.notify })
  else ([], d, s)

/-- Takes one datagram and turns it into events.  A closed transport, an error, and a
datagram that is no state report of the bound pad mean no events. -/
def read (d : Device) (s : Shared τ) :
    Except DeviceError (List InputEvent) × Device × Shared τ :=
  if d.lifecycle ≠ .acquired then (.error .notAcquired, d, s)
  else if !s.session.isOpen then (.ok [], d, s)
  else
    let received := s.session.receive
    let shared := { s with session := received.2 }
    match received.1 with
    | .error _ => (.ok [], d, shared)
    | .ok payload =>
      match StateReport.decode payload.bytes with
      | .error _ => (.ok [], d, shared)
      | .ok report =>
        let accepted := d.accept report shared
        (.ok accepted.1, accepted.2)

/-! ## Settings and queries -/

/-- Replaces the calibration of the first object that the filter selects, which has to
be an axis. -/
def setCalibration (d : Device) (filter : ObjectFilter) (c : Calibration) :
    Except DeviceError Unit × Device :=
  match d.layout.find filter with
  | some (index, o) =>
    if o.id.kind = .axis then
      (.ok (), { d with calibrations := d.calibrations.set index (some c) })
    else (.error .objectNotFound, d)
  | none => (.error .objectNotFound, d)

/-- The calibration of the object at a table index. -/
def calibration (d : Device) (index : Nat) : Option Calibration :=
  d.calibrations[index]?.join

/-- The device's name. -/
def name (d : Device) : String :=
  d.identity.productName

/-- The objects of the device in numbers. -/
def caps (d : Device) : DeviceCaps where
  axes := d.layout.count .axis
  buttons := d.layout.count .button
  povs := d.layout.count .hat
  firmwareRevision := 100
  hardwareRevision := 100
  cooperative := .nonExclusiveBackground

/-- Answers a property query.  The pad's id is zero without a binding, and the size of
the buffer is not the device's to say. -/
def property (d : Device) (s : Session τ) : Property → Except DeviceError PropertyValue
  | .productName => .ok (.text d.identity.productName)
  | .instanceName => .ok (.text d.identity.instanceName)
  | .vidPid => .ok (.dword d.identity.vidPid)
  | .joystickId => .ok (.dword ((s.boundId.map GamepadId.value).getD 0))
  | .guidAndPath => .ok (.path .hid d.identity.path)
  | .bufferSize => .error .unsupported

end Device

end RemotePad
