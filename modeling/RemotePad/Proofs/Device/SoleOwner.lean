import RemotePad.Proofs.Device.Lifecycle
import RemotePad.Transport.Scripted

/-!
# A device that has its session to itself

`SoleOwner` is every state that a device and its session reach when the device was created
on a fresh session, only its own operations use the session, and nobody lowers its gate.
The peer may answer anything and let any attempt fail.

* `Coherent` is the invariant of these states: an acquired device has an open transport
  and a binding of its own layout, nothing is bound over a closed transport, and the gate
  stands.  Each operation keeps it.
* `sole_owner_coherent` is what it comes to, with what the session is like right after the
  device gave its pad back or failed to acquire one.
-/

namespace RemotePad

variable {τ : Type} [Transport τ]

/-! ## The states of a sole owner -/

/-- The states that a device and its session reach while nobody else uses the session. -/
inductive SoleOwner : Device → Shared τ → Prop where
  | create {link : τ} {signals : SignalTable} {version : UInt32} {d : Device}
      (created : (Device.create ⟨{ link := link }, signals⟩ version).1 = .ok d) :
      SoleOwner d (Device.create ⟨{ link := link }, signals⟩ version).2
  | acquire {d : Device} {s : Shared τ} (owner : SoleOwner d s) :
      SoleOwner (d.acquire s).2.1 (d.acquire s).2.2
  | unacquire {d : Device} {s : Shared τ} {r : Device × Shared τ} (owner : SoleOwner d s)
      (returned : d.unacquire s = some r) : SoleOwner r.1 r.2
  | close {d : Device} {s : Shared τ} {r : Device × Shared τ} (owner : SoleOwner d s)
      (returned : d.close s = some r) : SoleOwner r.1 r.2
  | read {d : Device} {s : Shared τ} (owner : SoleOwner d s) :
      SoleOwner (d.read s).2.1 (d.read s).2.2
  | setCalibration {d : Device} {s : Shared τ} (owner : SoleOwner d s) (filter : ObjectFilter)
      (c : Calibration) : SoleOwner (d.setCalibration filter c).2 s
  /-- The host registers any handle, or none. -/
  | setNotify {d : Device} {s : Shared τ} (owner : SoleOwner d s) (handle : Option WaitHandle) :
      SoleOwner { d with notify := handle } s
  /-- The host makes, raises and lowers handles, the gate excepted. -/
  | signal {d : Device} {s : Shared τ} {signals : SignalTable} (owner : SoleOwner d s)
      (kept : s.signals.flags.length ≤ signals.flags.length)
      (up : ∀ g, d.gate = some g → s.signals.isSet g = true → signals.isSet g = true) :
      SoleOwner d { s with signals := signals }
  /-- The peer does something of its own; that neither opens nor closes the transport. -/
  | peer {d : Device} {s : Shared τ} {link : τ} (owner : SoleOwner d s)
      (same : Transport.isOpen link = s.session.isOpen) :
      SoleOwner d { s with session := { s.session with link := link } }

/-! ## The invariant -/

/-- An acquired device is served under its own layout, and only open transports are bound. -/
structure Coherent (d : Device) (s : Shared τ) : Prop where
  served : d.lifecycle = .acquired →
    s.session.isOpen = true ∧ ∃ b, s.session.binding = some b ∧ b.layout = d.layout
  open_of_bound : ∀ b, s.session.binding = some b → s.session.isOpen = true
  gate : d.GateStands s.signals

namespace Coherent

variable {d : Device} {s : Shared τ}

/-- Nothing is bound over a closed transport. -/
theorem unbound_of_closed (coh : Coherent d s) (closed : s.session.isOpen = false) :
    s.session.binding = none := by
  cases hb : s.session.binding with
  | none => rfl
  | some b => exact absurd ((coh.open_of_bound b hb).symm.trans closed) (by decide)

/-- Of a device only its stage, its layout and its gate matter here. -/
theorem congr {d' : Device} (coh : Coherent d s) (hlife : d'.lifecycle = d.lifecycle)
    (hlayout : d'.layout = d.layout) (hgate : d'.gate = d.gate) : Coherent d' s where
  served := by
    rw [hlife, hlayout]
    exact coh.served
  open_of_bound := coh.open_of_bound
  gate := coh.gate.congr hgate hlife

/-- Of a session only the openness and the binding matter here. -/
theorem frame {s' : Shared τ} (coh : Coherent d s)
    (hopen : s'.session.isOpen = s.session.isOpen)
    (hbinding : s'.session.binding = s.session.binding) (hgate : d.GateStands s'.signals) :
    Coherent d s' where
  served := by
    rw [hopen, hbinding]
    exact coh.served
  open_of_bound := by
    rw [hopen, hbinding]
    exact coh.open_of_bound
  gate := hgate

/-- A device that is not acquired is fine over a session without a binding. -/
theorem of_unbound (idle : d.lifecycle ≠ .acquired) (unbound : s.session.binding = none)
    (gate : d.GateStands s.signals) : Coherent d s where
  served := fun acquired => absurd acquired idle
  open_of_bound := fun b hb => by
    rw [unbound] at hb
    cases hb
  gate := gate

/-- A device that was acquired and gave its pad back. -/
theorem release (coh : Coherent d s) (acquired : d.lifecycle = .acquired) :
    Coherent { d with lifecycle := .bound }
      ({ s with session := s.session.release.disconnect } : Shared τ) := by
  refine of_unbound (fun ha => nomatch ha) rfl ⟨fun _ => ?_, coh.gate.inTable, (nomatch ·)⟩
  exact coh.gate.present (by rw [acquired]; decide)

/-- A device that is shut, over a session that is bound only while it is open. -/
theorem shut {s' : Shared τ}
    (open_of_bound : ∀ b, s'.session.binding = some b → s'.session.isOpen = true) :
    Coherent d.shut s' where
  served := (nomatch ·)
  open_of_bound := open_of_bound
  gate := ⟨fun hne => absurd rfl hne, fun _ hg => (nomatch hg), (nomatch ·)⟩

theorem setCalibration (coh : Coherent d s) (filter : ObjectFilter) (c : Calibration) :
    Coherent (d.setCalibration filter c).2 s := by
  obtain ⟨cs, hdevice⟩ := d.setCalibration_frame filter c
  rw [hdevice]
  exact coh.congr rfl rfl rfl

theorem unacquire {r : Device × Shared τ} (coh : Coherent d s)
    (returned : d.unacquire s = some r) : Coherent r.1 r.2 := by
  rcases d.unacquire_cases s with h | ⟨_, h⟩ | ⟨acquired, h⟩ <;> rw [h] at returned <;>
    cases returned
  · exact coh
  · exact coh.release acquired

theorem close {r : Device × Shared τ} (coh : Coherent d s)
    (returned : d.close s = some r) : Coherent r.1 r.2 := by
  rcases d.close_cases s with h | ⟨_, h⟩ | ⟨_, h⟩ | ⟨acquired, h⟩ <;> rw [h] at returned <;>
    cases returned
  · exact coh
  · exact shut coh.open_of_bound
  · exact shut (coh.release acquired).open_of_bound

variable [LawfulTransport τ]

theorem create {version : UInt32} (created : (Device.create s version).1 = .ok d) :
    Coherent d (Device.create s version).2 := by
  cases hfound : (Device.discover s.session version).1 with
  | error e =>
    rw [Device.create_of_missed hfound] at created
    cases created
  | ok i =>
    obtain ⟨b, hopen, hbinding, hcreate⟩ := Device.create_of_found hfound
    rw [hcreate] at created ⊢
    cases created
    refine ⟨(nomatch ·), fun _ _ => hopen, fun _ => rfl, ?_, (nomatch ·)⟩
    -- the gate is the last handle of the table
    rintro g ⟨⟩
    simp [SignalTable.fresh]

/-- Nothing is bound after a failed acquisition of a bound device. -/
theorem acquire_error {e : DeviceError} (coh : Coherent d s) (bound : d.lifecycle = .bound)
    (failed : (d.acquire s).1 = .error e) :
    (d.acquire s).2.1 = d ∧ (d.acquire s).2.2.session.binding = none ∧
      (d.acquire s).2.2.signals = s.signals.raise? d.gate := by
  rcases d.acquire_cases s with
    ⟨hne, _⟩ | ⟨_, b, hok, _⟩ | ⟨_, _, hdevice, hsession, hsignals⟩
  · exact absurd bound hne
  · rw [hok] at failed
    cases failed
  · refine ⟨hdevice, ?_, hsignals⟩
    -- a binding that is still there would be one over a closed transport
    rcases hsession with hnone | ⟨hclosed, _, hsame⟩
    · exact hnone
    · rw [hsame, coh.unbound_of_closed hclosed]

theorem acquire (coh : Coherent d s) : Coherent (d.acquire s).2.1 (d.acquire s).2.2 := by
  rcases d.acquire_cases s with
    ⟨_, hsame⟩ | ⟨hbound, b, _, hdevice, hopen, hbinding, hsignals⟩ | ⟨hbound, hfailed, _⟩
  · rw [hsame]
    exact coh
  · have hlife : d.lifecycle ≠ .closed := by rw [hbound]; decide
    refine ⟨fun _ => ⟨hopen, b, hbinding, ?_⟩, fun _ _ => hopen, ?_⟩
    · rw [hdevice]
      exact (d.layout_adopt b.layout).symm
    · rw [hsignals]
      refine coh.gate.raise hlife ?_
      rw [hdevice]
      exact d.gate_adopt b.layout
  · obtain ⟨hdevice, hunbound, hsignals⟩ := coh.acquire_error hbound hfailed
    rw [hdevice]
    refine of_unbound (by rw [hbound]; decide) hunbound ?_
    rw [hsignals]
    exact coh.gate.grow (s.signals.growsTo_raise? d.gate)

theorem read (coh : Coherent d s) : Coherent (d.read s).2.1 (d.read s).2.2 := by
  obtain ⟨⟨t, hdevice⟩, hopen, hbinding, hsignals⟩ := d.read_frame s
  have hafter : Coherent d (d.read s).2.2 := coh.frame hopen hbinding (coh.gate.grow hsignals)
  rw [hdevice]
  exact hafter.congr rfl rfl rfl

end Coherent

/-! ## Every state of a sole owner -/

variable [LawfulTransport τ] {d : Device} {s : Shared τ}

theorem SoleOwner.coherent (owner : SoleOwner d s) : Coherent d s := by
  induction owner with
  | create created => exact Coherent.create created
  | acquire _ ih => exact ih.acquire
  | unacquire _ returned ih => exact ih.unacquire returned
  | close _ returned ih => exact ih.close returned
  | read _ ih => exact ih.read
  | setCalibration _ filter c ih => exact ih.setCalibration filter c
  | setNotify _ handle ih => exact ih.congr rfl rfl rfl
  | signal _ kept up ih => exact ih.frame rfl rfl (ih.gate.kept kept up)
  | peer _ same ih => exact ih.frame same rfl ih.gate

/-- Of a device that has its session to itself:

* while it is acquired, the transport is open and bound under the layout of the device;
* the session holds a binding only over an open transport;
* giving back and closing an acquired device return, and leave the transport closed and
  nothing bound;
* a failed acquisition leaves a bound device as it is, and nothing bound. -/
theorem sole_owner_coherent (owner : SoleOwner d s) :
    (d.lifecycle = .acquired →
      s.session.isOpen = true ∧ ∃ b, s.session.binding = some b ∧ b.layout = d.layout) ∧
    (∀ b, s.session.binding = some b → s.session.isOpen = true) ∧
    (d.lifecycle = .acquired → ∀ left, left = d.unacquire s ∨ left = d.close s →
      ∃ r, left = some r ∧ r.2.session.isOpen = false ∧ r.2.session.binding = none) ∧
    (d.lifecycle = .bound → ∀ e, (d.acquire s).1 = .error e →
      (d.acquire s).2.1.lifecycle = .bound ∧ (d.acquire s).2.1 = d ∧
      (d.acquire s).2.2.session.binding = none) := by
  have coh := owner.coherent
  refine ⟨coh.served, coh.open_of_bound, fun acquired left hleft => ?_, fun bound e failed => ?_⟩
  · have hclosed := s.session.release.isOpen_disconnect
    rcases hleft with rfl | rfl
    · exact ⟨_, Device.unacquire_of_gateStands coh.gate acquired, hclosed, rfl⟩
    · exact ⟨_, Device.close_of_gateStands coh.gate acquired, hclosed, rfl⟩
  · obtain ⟨hdevice, hunbound, _⟩ := coh.acquire_error bound failed
    exact ⟨(congrArg Device.lifecycle hdevice).trans bound, hdevice, hunbound⟩

/-- A pad that changes its layout between discovery and acquisition. -/
theorem sole_owner_coherent_relayout :
    ∃ (d : Device) (s : Shared ScriptedPeer), SoleOwner d s ∧ d.lifecycle = .acquired ∧
      d.layout = .standard ∧ s.session.isOpen = true ∧
      ∃ b, s.session.binding = some b ∧ b.layout = d.layout := by
  let pad := fun bits =>
    Wire.Payload.ofBytes (Wire.GamepadResponse.encode ⟨7, ⟨bits⟩⟩ none).bytes
  let link : ScriptedPeer := { inbox := [.ok (pad 0x0a), .ok (pad 0x09)] }
  let d : Device :=
    { id := "gamepad:7", identity := .gamepad "" 0x0800, layout := .extended
      calibrations := Device.defaultCalibrations .extended, gate := some ⟨0⟩ }
  have created : (Device.create ⟨{ link := link }, {}⟩ 0x0800).1 = .ok d := by with_unfolding_all rfl
  have owner := (SoleOwner.create created).acquire
  refine ⟨_, _, owner, ?acquired, ?layout, (sole_owner_coherent owner).1 ?acquired⟩
  case acquired => decide +kernel +zetaReduce
  case layout => decide +kernel +zetaReduce

end RemotePad
