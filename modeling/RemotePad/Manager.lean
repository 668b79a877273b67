import RemotePad.Device
import RemotePad.Event.Queue
import RemotePad.Settings

/-!
# Device managers

A manager owns the devices of one session and a bounded queue of their events.

* `Manager.poll` reads every device once into the queue.
* `Manager.shutdown` closes every device and empties the queue.
-/

namespace RemotePad

/-- Devices of one session and the queue of their events. -/
structure Manager where
  settings : Settings
  devices : List Device := []
  queue : EventQueue
  deriving Repr, DecidableEq

namespace Manager

variable {τ : Type} [Transport τ]

/-- A manager without devices. -/
def new (settings : Settings) : Manager where
  settings := settings
  queue := .new settings.queueCapacity.toNat

/-! ## Devices -/

/-- The identities that can be found now: one or none. -/
def discover (m : Manager) (s : Session τ) : List DeviceInstance × Session τ :=
  Device.probe s m.settings.version

/-- Creates a device and answers its place. -/
def openGamepad (m : Manager) (s : Shared τ) : Except DeviceError Nat × Manager × Shared τ :=
  let created := Device.create s m.settings.version
  match created.1 with
  | .error e => (.error e, m, created.2)
  | .ok d => (.ok m.devices.length, { m with devices := m.devices ++ [d] }, created.2)

/-- Acquires devices in order and counts those that are acquired afterwards. -/
def acquireEach : List Device → Shared τ → Nat × List Device × Shared τ
  | [], s => (0, [], s)
  | d :: rest, s =>
    let first := d.acquire s
    let others := acquireEach rest first.2.2
    ((match first.1 with | .ok () => 1 | .error _ => 0) + others.1,
      first.2.1 :: others.2.1, others.2.2)

/-- Acquires every device; answers how many are acquired afterwards. -/
def acquireAll (m : Manager) (s : Shared τ) : Nat × Manager × Shared τ :=
  let acquired := acquireEach m.devices s
  (acquired.1, { m with devices := acquired.2.1 }, acquired.2.2)

/-! ## Events -/

/-- Reads devices in order; a device that is not acquired has no events. -/
def readEach : List Device → Shared τ → List InputEvent × List Device × Shared τ
  | [], s => ([], [], s)
  | d :: rest, s =>
    let first := d.read s
    let others := readEach rest first.2.2
    ((match first.1 with | .ok events => events | .error _ => []) ++ others.1,
      first.2.1 :: others.2.1, others.2.2)

/-- Reads every device once into the queue; answers how many events there were. -/
def poll (m : Manager) (s : Shared τ) : Nat × Manager × Shared τ :=
  let polled := readEach m.devices s
  (polled.1.length, { m with devices := polled.2.1, queue := m.queue.pushAll polled.1 },
    polled.2.2)

/-- Takes all events, oldest first. -/
def drain (m : Manager) : List InputEvent × Manager :=
  let drained := m.queue.drain
  (drained.1, { m with queue := drained.2 })

/-! ## Queries -/

/-- Puts a state under an id into a list ordered by id, in place of an earlier one. -/
def putState (id : String) (joy : JoyState) : List (String × JoyState) → List (String × JoyState)
  | [] => [(id, joy)]
  | entry :: rest =>
    if id = entry.1 then (id, joy) :: rest
    else if id < entry.1 then (id, joy) :: entry :: rest
    else entry :: putState id joy rest

/-- The states of all devices in the order of their ids.  Of devices with one id the
last one counts. -/
def snapshot (m : Manager) : List (String × JoyState) :=
  m.devices.foldl (fun states d => putState d.id d.tracker.joy states) []

/-- Answers a property query; the size of the buffer is that of the queue. -/
def property (m : Manager) (d : Device) (s : Session τ) :
    Property → Except DeviceError PropertyValue
  | .bufferSize => .ok (.dword (UInt32.ofNat m.queue.capacity))
  | p => d.property s p

/-! ## Shutdown -/

/-- Closes devices in order. -/
def closeEach : List Device → Shared τ → Option (Shared τ)
  | [], s => some s
  | d :: rest, s => (d.close s).bind fun r => closeEach rest r.2

/-- Closes every device, forgets them and empties the queue. -/
def shutdown (m : Manager) (s : Shared τ) : Option (Manager × Shared τ) :=
  (closeEach m.devices s).map fun s' => ({ m with devices := [], queue := m.queue.clear }, s')

end Manager

end RemotePad
