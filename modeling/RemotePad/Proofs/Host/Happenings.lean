import RemotePad.Proofs.Host.Gates
import RemotePad.Proofs.Host.Lifelong

/-!
# What happens to hosts

Actions are not all that happens to a host.  Its peer is free to do anything at any time, and
the host has handles of its own, besides which it can get hold of the gates of its devices.

* `Happening`, `Host.undergo` and `Host.after`: one thing that happens, and a course of them.
* `Host.kept_undergo` and `Host.lifelong_after`: what no operation takes away from devices,
  nothing else takes away from them either.
* `Host.handles_undergo`: handles only become more.
* `Device.lifelong_gate`: a device has a gate until it is closed.  `Host.rooted_after`: that
  gate is a handle that was made, whatever the host did with its flag.
-/

namespace RemotePad

/-- What can happen to a host. -/
inductive Happening (τ : Type) where
  | act (a : Action)
  /-- The peer does something of its own. -/
  | peer (change : τ → τ)
  /-- The host makes a handle. -/
  | makeHandle
  /-- The host raises a handle. -/
  | raise (w : WaitHandle)
  /-- The host lowers a handle. -/
  | lower (w : WaitHandle)
  /-- The host registers any handle that it has, or none, to be told of new input. -/
  | register (target : DeviceRef) (w : Option WaitHandle)

variable {τ : Type}

namespace Host

/-- Replaces the flags. -/
def withSignals (h : Host τ) (t : SignalTable) : Host τ :=
  { h with shared := { h.shared with signals := t } }

variable [Transport τ]

/-- A host after one thing happened to it. -/
def undergo (h : Host τ) : Happening τ → Host τ
  | .act a => (h.perform a).2
  | .peer change => h.mapLink change
  | .makeHandle => h.withSignals h.shared.signals.fresh.2
  | .raise w => h.withSignals (h.shared.signals.raise w)
  | .lower w => h.withSignals (h.shared.signals.lower w)
  | .register target w =>
    match h.device? target with
    | some d => h.setDevice { d with notify := w } target
    | none => h

/-- A host after a course of happenings. -/
def after (h : Host τ) (course : List (Happening τ)) : Host τ :=
  course.foldl undergo h

theorem after_snoc (h : Host τ) (course : List (Happening τ)) (x : Happening τ) :
    h.after (course ++ [x]) = (h.after course).undergo x :=
  List.foldl_append

/-- What every happening keeps, every course keeps. -/
theorem after_invariant {P : Host τ → Prop} (step : ∀ h x, P h → P (h.undergo x)) {h : Host τ}
    (holds : P h) (course : List (Happening τ)) : P (h.after course) := by
  induction course generalizing h with
  | nil => exact holds
  | cons x rest ih => exact ih (step h x holds)

/-! ## Properties of devices -/

section

variable {P : Device → Prop} {h : Host τ}

/-- A property that no operation takes away outlasts a happening, if a device that is made in
it has the property. -/
theorem kept_undergo (law : Device.Kept τ P) (holds : h.Everywhere P) (x : Happening τ)
    (made : ∀ version d, (Device.create h.shared version).1 = .ok d →
      (h.undergo x).shared = (Device.create h.shared version).2 → P d) :
    (h.undergo x).Everywhere P := by
  cases x with
  | act a => exact kept_perform law holds a made
  | peer change | makeHandle | raise w | lower w =>
    exact holds.of_keeps (keeps_of_places rfl rfl)
  | register target w =>
    simp only [undergo]
    split
    · next d placed => exact holds.setDevice h.shared placed (law.notify w (holds target d placed))
    · exact holds

/-- What is lifelong outlasts every course. -/
theorem lifelong_after (law : Device.Lifelong τ P) (holds : h.Everywhere P)
    (course : List (Happening τ)) : (h.after course).Everywhere P :=
  after_invariant (P := Everywhere P)
    (fun _ x holds => kept_undergo law.toKept holds x fun _ _ made _ => law.made made) holds course

end

end Host

/-! ## Handles -/

variable [Transport τ]

namespace Host

/-- How many handles were made. -/
def handles (h : Host τ) : Nat :=
  h.shared.signals.flags.length

omit [Transport τ] in
/-- The same flags are as many. -/
theorem handles_of_signals {h h' : Host τ} (same : h'.shared.signals = h.shared.signals) :
    h.handles ≤ h'.handles :=
  Nat.le_of_eq (congrArg (·.flags.length) same.symm)

omit [Transport τ] in
@[simp] theorem handles_setDevice (h : Host τ) (d : Device) (target : DeviceRef) :
    (h.setDevice d target).handles = h.handles := by
  rw [handles, shared_setDevice, handles]

theorem handles_performOnDevice (h : Host τ) (target : DeviceRef) (d : Device)
    (action : DeviceAction) : h.handles ≤ (h.performOnDevice target d action).2.handles := by
  cases action with
  | acquire =>
    simp only [performOnDevice, handles_setDevice]
    exact (d.signals_acquire h.shared).length_le
  | read =>
    simp only [performOnDevice, handles_setDevice]
    exact (d.read_keeps h.shared).2.2.length_le
  | unacquire =>
    simp only [performOnDevice]
    split
    · next r hr =>
      rw [handles_setDevice]
      exact handles_of_signals (Device.signals_unacquire hr)
    · exact Nat.le_refl _
  | close =>
    simp only [performOnDevice]
    split
    · next r hr =>
      rw [handles_setDevice]
      exact handles_of_signals (Device.signals_close hr)
    · exact Nat.le_refl _
  | setCalibration filter c =>
    simp only [performOnDevice, handles_setDevice]
    exact Nat.le_refl _
  | notifyOn => exact h.shared.signals.growsTo_fresh.length_le
  | notifyOff =>
    simp only [performOnDevice, handles_setDevice]
    exact Nat.le_refl _
  | notifyReset =>
    simp only [performOnDevice]
    split
    · simp [handles, SignalTable.lower]
    · exact Nat.le_refl _

theorem handles_performOnManager (h : Host τ) (k : Nat) (m : Manager) (action : ManagerAction) :
    h.handles ≤ (h.performOnManager k m action).2.handles := by
  cases action with
  | discover | drain => exact Nat.le_refl _
  | openGamepad =>
    have hgrows := (Device.signals_create h.shared m.settings.version).length_le
    simp only [performOnManager, Manager.openGamepad]
    split <;> exact hgrows
  | acquireAll => exact (Manager.signals_acquireEach m.devices h.shared).length_le
  | poll => exact (Manager.signals_readEach m.devices h.shared).length_le
  | shutdown | drop =>
    simp only [performOnManager]
    split
    · next r hr => exact handles_of_signals (Manager.signals_shutdown hr)
    · exact Nat.le_refl _

theorem handles_perform (h : Host τ) (a : Action) : h.handles ≤ (h.perform a).2.handles := by
  cases a with
  | connect | disconnect | acquire | release | receive | drawSequence => exact Nat.le_refl _
  | discover | probe | manage => exact Nat.le_refl _
  | create version =>
    have hgrows := (Device.signals_create h.shared version).length_le
    simp only [perform]
    split <;> exact hgrows
  | drop place =>
    simp only [perform]
    split
    · exact Nat.le_refl _
    · split
      · next r hr => exact handles_of_signals (Device.signals_close hr)
      · exact Nat.le_refl _
  | device target action =>
    cases hd : h.device? target with
    | none =>
      simp only [perform, hd]
      exact Nat.le_refl _
    | some d =>
      simp only [perform, hd]
      exact h.handles_performOnDevice target d action
  | manager k action =>
    cases hm : h.manager? k with
    | none => exact Nat.le_of_eq (by rw [perform_of_absent_manager hm])
    | some m =>
      simp only [perform, hm]
      exact h.handles_performOnManager k m action

/-- No handle is unmade. -/
theorem handles_undergo (h : Host τ) (x : Happening τ) : h.handles ≤ (h.undergo x).handles := by
  cases x with
  | act a => exact h.handles_perform a
  | peer change => exact Nat.le_refl _
  | makeHandle => exact h.shared.signals.growsTo_fresh.length_le
  | raise w => exact (h.shared.signals.growsTo_raise? (some w)).length_le
  | lower w => simp [undergo, withSignals, handles, SignalTable.lower]
  | register target w =>
    simp only [undergo]
    split
    · exact Nat.le_of_eq (handles_setDevice h _ target).symm
    · exact Nat.le_refl _

end Host

/-! ## Gates are handles -/

namespace Device

/-- A device has a gate until it is closed. -/
theorem lifelong_gate : Lifelong τ fun d => d.gate.isSome = true ↔ d.lifecycle ≠ .closed where
  made := fun made => by
    rw [(gate_create made).1, lifecycle_create made]
    exact ⟨fun _ => nofun, fun _ => rfl⟩
  acquire := fun {d} s has => by
    rcases d.acquire_granted s with ⟨b, granted, hdevice⟩ | ⟨_, hdevice⟩ <;> rw [hdevice]
    · have hbound : d.lifecycle = .bound := (Option.ite_none_right_eq_some.mp granted).1
      have hgate : (d.adopt b.layout).gate.isSome = true := by
        rw [gate_adopt, has, hbound]
        decide
      exact ⟨fun _ => nofun, fun _ => hgate⟩
    · exact has
  read := fun {d} s has => by
    obtain ⟨t, hdevice⟩ := (d.read_keeps s).1
    rw [hdevice]
    exact has
  setCalibration := fun {d} filter c has => by
    obtain ⟨cs, hdevice⟩ := d.setCalibration_frame filter c
    rw [hdevice]
    exact has
  bound := fun {d} acquired has => by
    have hgate : d.gate.isSome = true := by
      rw [has, acquired]
      decide
    exact ⟨fun _ => nofun, fun _ => hgate⟩
  shut := fun _ => ⟨nofun, fun alive => absurd rfl alive⟩
  notify := fun _ has => has

omit [Transport τ] in
theorem gate_of_closed {d : Device} (has : d.gate.isSome = true ↔ d.lifecycle ≠ .closed)
    (closed : d.lifecycle = .closed) : d.gate = none :=
  Option.not_isSome_iff_eq_none.mp fun hgate => has.mp hgate closed

/-- The gate is one of the first `n` handles. -/
def Rooted (n : Nat) (d : Device) : Prop :=
  ∀ g, d.gate = some g → g.index < n

theorem Rooted.mono {n n' : Nat} {d : Device} (rooted : d.Rooted n) (more : n ≤ n') :
    d.Rooted n' :=
  fun g gate => Nat.lt_of_lt_of_le (rooted g gate) more

/-- No device gets another gate. -/
theorem kept_rooted (n : Nat) : Kept τ (Rooted n) where
  acquire := fun {d} s rooted => by
    rcases d.acquire_granted s with ⟨b, _, hdevice⟩ | ⟨_, hdevice⟩ <;> rw [hdevice]
    · exact fun g gate => rooted g ((d.gate_adopt b.layout).symm.trans gate)
    · exact rooted
  read := fun {d} s rooted => by
    obtain ⟨t, hdevice⟩ := (d.read_keeps s).1
    rw [hdevice]
    exact rooted
  setCalibration := fun {d} filter c rooted => by
    obtain ⟨cs, hdevice⟩ := d.setCalibration_frame filter c
    rw [hdevice]
    exact rooted
  bound := fun _ rooted => rooted
  shut := fun _ => nofun
  notify := fun _ rooted => rooted

end Device

namespace Host

variable {h : Host τ}

/-- Every gate is a handle that was made. -/
def Rooted (h : Host τ) : Prop :=
  h.Everywhere (Device.Rooted h.handles)

theorem rooted_undergo (rooted : h.Rooted) (x : Happening τ) : (h.undergo x).Rooted := by
  have hmore := h.handles_undergo x
  refine kept_undergo (Device.kept_rooted _) (fun target d placed =>
    (rooted target d placed).mono hmore) x fun version d made hshared g gate => ?_
  -- the gate of a device that was made is the newest handle
  obtain ⟨hgate, hsignals⟩ := Device.gate_create made
  rw [hgate] at gate
  cases gate
  rw [handles, hshared, hsignals]
  simp [SignalTable.fresh]

theorem rooted_after (rooted : h.Rooted) (course : List (Happening τ)) :
    (h.after course).Rooted :=
  after_invariant (P := Rooted) (fun _ x rooted => rooted_undergo rooted x) rooted course

end Host

end RemotePad
