import RemotePad.Host
import RemotePad.Proofs.Device.Lifecycle

/-!
# Turns of devices

In one action of a host a single device reads or is acquired, or all devices of a manager
one after the other.  A *turn* is a device in its place together with what it then finds of
the session and the flags.

* `Turn.along` puts the devices of a manager in turn: each finds what the one before left.
* `Host.readings` and `Host.acquisitions` are the turns of an action.
* `mem_along`: a turn is that of a device in the list.  `along_invariant`: what every device
  keeps is so at each turn.
* `Turn.Applies`: a read takes in a report.  `Turn.read_of_applies` says what becomes of it,
  and `Turn.read_of_not_applies` that no other read takes in anything.
-/

namespace RemotePad

variable {τ : Type}

/-- A device in its place, and what it shares at its turn. -/
structure Turn (τ : Type) where
  place : DeviceRef
  device : Device
  shared : Shared τ

namespace Turn

/-- The devices of manager `k` in turn from place `n` on.  `op` is what a device leaves of
what it finds. -/
def along (op : Device → Shared τ → Shared τ) (k : Nat) :
    Nat → List Device → Shared τ → List (Turn τ)
  | _, [], _ => []
  | n, d :: rest, s => ⟨.managed k n, d, s⟩ :: along op k (n + 1) rest (op d s)

variable {op : Device → Shared τ → Shared τ} {k : Nat}

/-- A turn is that of the device in its place. -/
theorem mem_along {n : Nat} {ds : List Device} {s : Shared τ} {r : Turn τ}
    (hr : r ∈ along op k n ds s) :
    ∃ i, r.place = .managed k (n + i) ∧ ds[i]? = some r.device := by
  induction ds generalizing n s with
  | nil => cases hr
  | cons d rest ih =>
    rcases List.mem_cons.mp hr with rfl | hmem
    · exact ⟨0, rfl, rfl⟩
    · obtain ⟨i, hplace, hdevice⟩ := ih hmem
      refine ⟨i + 1, ?_, hdevice⟩
      rw [hplace, Nat.add_assoc, Nat.add_comm 1 i]

/-- What every device keeps holds at each turn. -/
theorem along_invariant {P : Shared τ → Prop} (step : ∀ d s, P s → P (op d s)) {n : Nat}
    {ds : List Device} {s : Shared τ} (start : P s) {r : Turn τ} (hr : r ∈ along op k n ds s) :
    P r.shared := by
  induction ds generalizing n s with
  | nil => cases hr
  | cons d rest ih =>
    rcases List.mem_cons.mp hr with rfl | hmem
    · exact start
    · exact ih (step d s start) hmem

end Turn

namespace Host

/-- The turn of the device in a place. -/
def turnOf (h : Host τ) (target : DeviceRef) : List (Turn τ) :=
  (h.device? target).toList.map fun d => ⟨target, d, h.shared⟩

/-- The turns of the devices of a manager. -/
def turnsOf (h : Host τ) (op : Device → Shared τ → Shared τ) (k : Nat) : List (Turn τ) :=
  match h.manager? k with
  | some m => Turn.along op k 0 m.devices h.shared
  | none => []

variable [Transport τ]

/-- The turns in which devices read during an action. -/
def readings (h : Host τ) : Action → List (Turn τ)
  | .device target .read => h.turnOf target
  | .manager k .poll => h.turnsOf (fun d s => (d.read s).2.2) k
  | _ => []

/-- The turns in which devices are to be acquired during an action. -/
def acquisitions (h : Host τ) : Action → List (Turn τ)
  | .device target .acquire => h.turnOf target
  | .manager k .acquireAll => h.turnsOf (fun d s => (d.acquire s).2.2) k
  | _ => []

section Placed

omit [Transport τ]

theorem turnOf_of_placed {h : Host τ} {target : DeviceRef} {d : Device}
    (placed : h.device? target = some d) : h.turnOf target = [⟨target, d, h.shared⟩] := by
  rw [turnOf, placed]
  rfl

theorem mem_turnOf_of_placed {h : Host τ} {target : DeviceRef} {d : Device}
    (placed : h.device? target = some d) : ⟨target, d, h.shared⟩ ∈ h.turnOf target := by
  rw [turnOf_of_placed placed]
  exact List.mem_cons_self

theorem turnOf_of_absent {h : Host τ} {target : DeviceRef} (absent : h.device? target = none) :
    h.turnOf target = [] := by
  rw [turnOf, absent]
  rfl

theorem turnsOf_of_placed {h : Host τ} {op : Device → Shared τ → Shared τ} {k : Nat}
    {m : Manager} (placed : h.manager? k = some m) :
    h.turnsOf op k = Turn.along op k 0 m.devices h.shared := by
  rw [turnsOf, placed]

theorem turnsOf_of_absent {h : Host τ} {op : Device → Shared τ → Shared τ} {k : Nat}
    (absent : h.manager? k = none) : h.turnsOf op k = [] := by
  rw [turnsOf, absent]

theorem mem_turnOf {h : Host τ} {target : DeviceRef} {r : Turn τ} (hr : r ∈ h.turnOf target) :
    r.place = target ∧ h.device? target = some r.device ∧ r.shared = h.shared := by
  obtain ⟨d, hd, rfl⟩ := List.mem_map.mp hr
  exact ⟨rfl, Option.mem_toList.mp hd, rfl⟩

theorem mem_turnsOf {h : Host τ} {op : Device → Shared τ → Shared τ} {k : Nat} {r : Turn τ}
    (hr : r ∈ h.turnsOf op k) :
    ∃ m, h.manager? k = some m ∧ r ∈ Turn.along op k 0 m.devices h.shared := by
  cases hm : h.manager? k with
  | none =>
    rw [turnsOf_of_absent hm] at hr
    cases hr
  | some m =>
    rw [turnsOf_of_placed hm] at hr
    exact ⟨m, rfl, hr⟩

end Placed

end Host

variable [Transport τ]

/-! ## Reads that take in a report -/

namespace Turn

/-- The device at its turn reads a report of the pad that the session is bound to. -/
structure Applies (r : Turn τ) (report : Wire.StateReport) : Prop where
  acquired : r.device.lifecycle = .acquired
  arrives : r.shared.session.incoming? = some report
  named : r.shared.session.boundId.map GamepadId.value = some report.id

/-- What the device makes of a report under a layout: its tracker, and the events. -/
def seen (r : Turn τ) (l : Layout) (report : Wire.StateReport) : Tracker × List InputEvent :=
  let applied := r.device.tracker.apply l r.device.calibrations report.sample
    Session.nextSequence r.shared.session.receive.2
  (applied.1, applied.2.1)

/-- The report is seen under the layout of the device. -/
theorem read_of_applies {r : Turn τ} {report : Wire.StateReport} (applies : r.Applies report) :
    (r.device.read r.shared).1 = .ok (r.seen r.device.layout report).2 ∧
      (r.device.read r.shared).2.1 =
        { r.device with tracker := (r.seen r.device.layout report).1 } := by
  have hbound : ({ r.shared with session := r.shared.session.receive.2 } :
      Shared τ).session.boundId.map GamepadId.value = some report.id := applies.named
  rcases r.device.read_cases r.shared with ⟨hidle, _⟩ | ⟨_, hnone, _⟩ | ⟨_, report', hin, hread⟩
  · exact absurd applies.acquired hidle
  · rw [applies.arrives] at hnone
    cases hnone
  · obtain rfl : report = report' := Option.some.inj (applies.arrives.symm.trans hin)
    rw [hread, Device.accept, if_pos hbound]
    exact ⟨rfl, rfl⟩

/-- Any other read leaves the device as it is and has no events. -/
theorem read_of_not_applies {r : Turn τ} (ignores : ∀ report, ¬ r.Applies report) :
    (r.device.read r.shared).1.toOption.getD [] = [] ∧
      (r.device.read r.shared).2.1 = r.device := by
  rcases r.device.read_cases r.shared with
    ⟨_, hread⟩ | ⟨_, _, _, _, hread⟩ | ⟨acquired, report, hin, hread⟩
  · rw [hread]
    exact ⟨rfl, rfl⟩
  · rw [hread]
    exact ⟨rfl, rfl⟩
  · have hforeign : ¬ ({ r.shared with session := r.shared.session.receive.2 } :
        Shared τ).session.boundId.map GamepadId.value = some report.id :=
      fun hnamed => ignores report ⟨acquired, hin, hnamed⟩
    rw [hread, Device.accept, if_neg hforeign]
    exact ⟨rfl, rfl⟩

end Turn

end RemotePad
