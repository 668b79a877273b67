import RemotePad.Manager

/-!
# Hosts

A host program has one session, devices that it created itself, managers with devices
of their own, and handles that it watches.  `Host` is that state as one value, `Action`
is what the program may do next, and `Host.perform` does it.

* An action on a device or manager that is not there does nothing.  The reply says so,
  except to a second dropping.
* `Reply.blocked` stands for a call that never returns; the host stays as it was.
* `Host.run` performs actions one after the other.
-/

namespace RemotePad

open Wire

/-! ## State -/

/-- A device of a host: one of its own, or one of a manager's. -/
inductive DeviceRef where
  | own (place : Nat)
  | managed (manager place : Nat)
  deriving Repr, DecidableEq

/-- A host program. -/
structure Host (τ : Type) where
  shared : Shared τ
  /-- The host's own devices in order of creation; a dropped one leaves a gap. -/
  devices : List (Option Device) := []
  /-- The host's managers in order of creation; a dropped one leaves a gap. -/
  managers : List (Option Manager) := []
  /-- The handles that the host watches, latest first. -/
  watched : List (DeviceRef × WaitHandle) := []

/-! ## Actions and replies -/

/-- What a host may do with one device. -/
inductive DeviceAction where
  | acquire
  | unacquire
  | close
  | read
  | setCalibration (filter : ObjectFilter) (calibration : Calibration)
  /-- Register a fresh handle that tells of new input. -/
  | notifyOn
  /-- Register no handle. -/
  | notifyOff
  /-- Lower the handle that was registered last. -/
  | notifyReset
  deriving Repr, DecidableEq

/-- What a host may do with a manager. -/
inductive ManagerAction where
  | discover
  | openGamepad
  | acquireAll
  | poll
  | drain
  | shutdown
  /-- Shut the manager down and forget it. -/
  | drop
  deriving Repr, DecidableEq

/-- What a host may do. -/
inductive Action where
  | connect
  | disconnect
  | acquire (notify wantName : Bool)
  | release
  | receive
  /-- Take numbers that events would get. -/
  | drawSequence (count : Nat)
  | discover (version : UInt32)
  | probe (version : UInt32)
  | create (version : UInt32)
  /-- Close one of its own devices and forget it. -/
  | drop (place : Nat)
  | device (target : DeviceRef) (action : DeviceAction)
  /-- Make a manager. -/
  | manage (settings : Settings)
  | manager (place : Nat) (action : ManagerAction)
  deriving Repr, DecidableEq

/-- What a host is told. -/
inductive Reply where
  | nothing
  /-- There is no such device or manager. -/
  | absent
  /-- The call does not return. -/
  | blocked
  | transport (result : Except TransportError Unit)
  | binding (result : Except SessionError Binding)
  | received (result : Except TransportError Payload)
  | numbers (values : List UInt64)
  | found (result : Except DeviceError DeviceInstance)
  | instances (values : List DeviceInstance)
  /-- The place of a new device or manager. -/
  | opened (result : Except DeviceError Nat)
  | device (result : Except DeviceError Unit)
  | events (result : Except DeviceError (List InputEvent))
  | drained (values : List InputEvent)
  | count (value : Nat)

/-! ## Places of devices -/

namespace Host

variable {τ : Type}

/-- The manager at a place. -/
def manager? (h : Host τ) (place : Nat) : Option Manager :=
  h.managers[place]?.join

/-- Puts a manager into a place. -/
def setManager (h : Host τ) (m : Manager) (place : Nat) : Host τ :=
  { h with managers := h.managers.set place (some m) }

/-- The device at a place. -/
def device? (h : Host τ) : DeviceRef → Option Device
  | .own n => h.devices[n]?.join
  | .managed k n => (h.manager? k).bind fun m => m.devices[n]?

/-- Puts a device into a place. -/
def setDevice (h : Host τ) (d : Device) : DeviceRef → Host τ
  | .own n => { h with devices := h.devices.set n (some d) }
  | .managed k n =>
    match h.manager? k with
    | some m => h.setManager { m with devices := m.devices.set n d } k
    | none => h

/-- The handle that the host registered last for a place. -/
def watchedHandle? (h : Host τ) (target : DeviceRef) : Option WaitHandle :=
  (h.watched.find? fun w => w.1 = target).map Prod.snd

/-- Whether the handle registered last for a place is raised. -/
def notified? (h : Host τ) (target : DeviceRef) : Option Bool :=
  (h.watchedHandle? target).map h.shared.signals.isSet

/-- Changes the transport, as the peer may do at any time. -/
def mapLink (h : Host τ) (f : τ → τ) : Host τ :=
  { h with shared :=
      { h.shared with session := { h.shared.session with link := f h.shared.session.link } } }

/-- Replaces the session. -/
def withSession (h : Host τ) (s : Session τ) : Host τ :=
  { h with shared := { h.shared with session := s } }

variable [Transport τ]

/-! ## Performing actions -/

/-- Takes numbers one after the other. -/
def drawNumbers : Nat → Session τ → List UInt64 × Session τ
  | 0, s => ([], s)
  | n + 1, s =>
    let first := s.nextSequence
    let others := drawNumbers n first.2
    (first.1 :: others.1, others.2)

/-- Does something with a device that stands in a place. -/
def performOnDevice (h : Host τ) (target : DeviceRef) (d : Device) :
    DeviceAction → Reply × Host τ
  | .acquire =>
    let r := d.acquire h.shared
    (.device r.1, { h with shared := r.2.2 }.setDevice r.2.1 target)
  | .unacquire =>
    match d.unacquire h.shared with
    | some r => (.device (.ok ()), { h with shared := r.2 }.setDevice r.1 target)
    | none => (.blocked, h)
  | .close =>
    match d.close h.shared with
    | some r => (.nothing, { h with shared := r.2 }.setDevice r.1 target)
    | none => (.blocked, h)
  | .read =>
    let r := d.read h.shared
    (.events r.1, { h with shared := r.2.2 }.setDevice r.2.1 target)
  | .setCalibration filter c =>
    let r := d.setCalibration filter c
    (.device r.1, h.setDevice r.2 target)
  | .notifyOn =>
    let made := h.shared.signals.fresh
    let h := h.setDevice { d with notify := some made.1 } target
    (.nothing,
      { h with
        shared := { h.shared with signals := made.2 }
        watched := (target, made.1) :: h.watched })
  | .notifyOff => (.nothing, h.setDevice { d with notify := none } target)
  | .notifyReset =>
    match h.watchedHandle? target with
    | some w =>
      (.nothing, { h with shared := { h.shared with signals := h.shared.signals.lower w } })
    | none => (.nothing, h)

/-- Does something with a manager that stands in a place. -/
def performOnManager (h : Host τ) (place : Nat) (m : Manager) : ManagerAction → Reply × Host τ
  | .discover =>
    let r := m.discover h.shared.session
    (.instances r.1, h.withSession r.2)
  | .openGamepad =>
    let r := m.openGamepad h.shared
    (.opened r.1, { h with shared := r.2.2 }.setManager r.2.1 place)
  | .acquireAll =>
    let r := m.acquireAll h.shared
    (.count r.1, { h with shared := r.2.2 }.setManager r.2.1 place)
  | .poll =>
    let r := m.poll h.shared
    (.count r.1, { h with shared := r.2.2 }.setManager r.2.1 place)
  | .drain =>
    let r := m.drain
    (.drained r.1, h.setManager r.2 place)
  | .shutdown =>
    match m.shutdown h.shared with
    | some r => (.count r.1.devices.length, { h with shared := r.2 }.setManager r.1 place)
    | none => (.blocked, h)
  | .drop =>
    match m.shutdown h.shared with
    | some r => (.nothing, { h with shared := r.2, managers := h.managers.set place none })
    | none => (.blocked, h)

/-- Does what the program does next. -/
def perform (h : Host τ) : Action → Reply × Host τ
  | .connect =>
    let r := h.shared.session.connect
    (.transport r.1, h.withSession r.2)
  | .disconnect => (.nothing, h.withSession h.shared.session.disconnect)
  | .acquire notify wantName =>
    let r := h.shared.session.acquire notify wantName
    (.binding r.1, h.withSession r.2)
  | .release => (.nothing, h.withSession h.shared.session.release)
  | .receive =>
    let r := h.shared.session.receive
    (.received r.1, h.withSession r.2)
  | .drawSequence count =>
    let r := drawNumbers count h.shared.session
    (.numbers r.1, h.withSession r.2)
  | .discover version =>
    let r := Device.discover h.shared.session version
    (.found r.1, h.withSession r.2)
  | .probe version =>
    let r := Device.probe h.shared.session version
    (.instances r.1, h.withSession r.2)
  | .create version =>
    let r := Device.create h.shared version
    match r.1 with
    | .ok d =>
      (.opened (.ok h.devices.length),
        { h with shared := r.2, devices := h.devices ++ [some d] })
    | .error e => (.opened (.error e), { h with shared := r.2 })
  | .drop place =>
    match h.device? (.own place) with
    | none => (.nothing, h)
    | some d =>
      match d.close h.shared with
      | some r => (.nothing, { h with shared := r.2, devices := h.devices.set place none })
      | none => (.blocked, h)
  | .device target action =>
    match h.device? target with
    | none => (.absent, h)
    | some d => h.performOnDevice target d action
  | .manage settings =>
    (.opened (.ok h.managers.length), { h with managers := h.managers ++ [some (.new settings)] })
  | .manager place action =>
    match h.manager? place, action with
    | some m, action => h.performOnManager place m action
    | none, .drop => (.nothing, h)
    | none, _ => (.absent, h)

/-- Performs actions one after the other. -/
def run (h : Host τ) : List Action → List Reply × Host τ
  | [] => ([], h)
  | a :: rest =>
    let first := h.perform a
    let others := first.2.run rest
    (first.1 :: others.1, others.2)

/-- The end of the program: the managers go first, then the host's own devices, all in
order of creation. -/
def finish (h : Host τ) : Host τ :=
  (h.run ((List.range h.managers.length).map (Action.manager · .drop) ++
    (List.range h.devices.length).map Action.drop)).2

end Host

end RemotePad
