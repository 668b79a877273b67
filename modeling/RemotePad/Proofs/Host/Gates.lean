import RemotePad.Proofs.Host.Places
import RemotePad.Proofs.Manager.Devices

/-!
# Gates of devices in a host

A device that gives its pad back waits at its gate.  The host has handles of its own, and those
it may lower; the gates it leaves alone.

* `Host.Gated`: the gate of every device stands, and no handle that the host watches is a gate.
* `Host.gated_perform`: so it is after every action.
-/

namespace RemotePad

variable {τ : Type}

/-! ## Flags -/

namespace SignalTable

theorem GrowsTo.trans {t t' t'' : SignalTable} (h : t.GrowsTo t') (h' : t'.GrowsTo t'') :
    t.GrowsTo t'' :=
  ⟨Nat.le_trans h.length_le h'.length_le, fun w hw => h'.isSet w (h.isSet w hw)⟩

theorem growsTo_fresh (t : SignalTable) : t.GrowsTo t.fresh.2 := by
  refine ⟨by simp [fresh], fun w hw => ?_⟩
  by_cases hin : w.index < t.flags.length
  · rw [isSet, fresh, List.getElem?_append_left hin]
    exact hw
  · -- only a flag in the table can be up
    simp [isSet, List.getElem?_eq_none (Nat.le_of_not_lt hin)] at hw

theorem isSet_lower_ne {t : SignalTable} {w g : WaitHandle} (other : w ≠ g)
    (up : t.isSet g = true) : (t.lower w).isSet g = true := by
  rw [isSet_lower, up]
  exact decide_eq_true other

end SignalTable

/-! ## Operations of one device -/

namespace Device

/-- Bound and closed devices have nothing to wait for. -/
theorem GateStands.idle {d d' : Device} {t : SignalTable} (h : d.GateStands t)
    (gate : d'.gate = d.gate) (bound : d'.lifecycle = .bound) (alive : d.lifecycle ≠ .closed) :
    d'.GateStands t where
  present := fun _ => by
    rw [gate]
    exact h.present alive
  inTable := by
    rw [gate]
    exact h.inTable
  raised := fun acquired => by
    rw [bound] at acquired
    cases acquired

theorem gateStands_shut (d : Device) (t : SignalTable) : d.shut.GateStands t where
  present := fun alive => absurd rfl alive
  inTable := nofun
  raised := nofun

/-- A new device has the newest flag of the table for its gate. -/
theorem gate_create [Transport τ] {s : Shared τ} {version : UInt32} {d : Device}
    (made : (create s version).1 = .ok d) :
    d.gate = some s.signals.fresh.1 ∧ (create s version).2.signals = s.signals.fresh.2 := by
  unfold create at made ⊢
  simp only at made ⊢
  split at made
  · cases made
    exact ⟨rfl, rfl⟩
  · cases made
  · cases made

theorem gateStands_create [Transport τ] {s : Shared τ} {version : UInt32} {d : Device}
    (made : (create s version).1 = .ok d) : d.GateStands (create s version).2.signals := by
  obtain ⟨hgate, hsignals⟩ := gate_create made
  have hbound := lifecycle_create made
  refine ⟨fun _ => by rw [hgate]; rfl, fun g hg => ?_, fun acquired => ?_⟩
  · rw [hgate] at hg
    cases hg
    rw [hsignals]
    simp [SignalTable.fresh]
  · rw [hbound] at acquired
    cases acquired

theorem signals_create [Transport τ] (s : Shared τ) (version : UInt32) :
    s.signals.GrowsTo (create s version).2.signals := by
  unfold create
  simp only
  split
  · exact s.signals.growsTo_fresh
  · exact s.signals.growsTo_refl
  · exact s.signals.growsTo_refl

theorem signals_acquire [Transport τ] (d : Device) (s : Shared τ) :
    s.signals.GrowsTo (d.acquire s).2.2.signals := by
  cases hd : d.lifecycle with
  | closed =>
    simp only [acquire, hd]
    exact s.signals.growsTo_refl
  | acquired =>
    simp only [acquire, hd]
    exact s.signals.growsTo_refl
  | bound =>
    simp only [acquire, hd]
    split <;> exact s.signals.growsTo_raise? d.gate

theorem signals_unacquire [Transport τ] {d : Device} {s : Shared τ} {r : Device × Shared τ}
    (returned : d.unacquire s = some r) : r.2.signals = s.signals := by
  rcases d.unacquire_cases s with h | ⟨_, h⟩ | ⟨_, h⟩ <;> rw [h] at returned <;> cases returned <;>
    rfl

theorem signals_close [Transport τ] {d : Device} {s : Shared τ} {r : Device × Shared τ}
    (returned : d.close s = some r) : r.2.signals = s.signals := by
  rcases d.close_cases s with h | ⟨_, h⟩ | ⟨_, h⟩ | ⟨_, h⟩ <;> rw [h] at returned <;>
    cases returned <;> rfl

variable [Transport τ] [LawfulTransport τ]

/-- An acquisition raises the gate, whatever comes of it. -/
theorem gate_acquire {d : Device} {s : Shared τ} (stands : d.GateStands s.signals) :
    (d.acquire s).2.1.GateStands (d.acquire s).2.2.signals ∧
      (d.acquire s).2.1.gate = d.gate ∧ s.signals.GrowsTo (d.acquire s).2.2.signals := by
  rcases d.acquire_cases s with
    ⟨_, hsame⟩ | ⟨hbound, b, _, hdevice, _, _, hsignals⟩ | ⟨_, _, hdevice, _, hsignals⟩
  · rw [hsame]
    exact ⟨stands, rfl, s.signals.growsTo_refl⟩
  · have alive : d.lifecycle ≠ .closed := by rw [hbound]; decide
    rw [hdevice, hsignals]
    exact ⟨stands.raise alive (d.gate_adopt b.layout), d.gate_adopt b.layout,
      s.signals.growsTo_raise? d.gate⟩
  · rw [hdevice, hsignals]
    exact ⟨stands.grow (s.signals.growsTo_raise? d.gate), rfl, s.signals.growsTo_raise? d.gate⟩

omit [LawfulTransport τ] in
theorem gate_read {d : Device} {s : Shared τ} (stands : d.GateStands s.signals) :
    (d.read s).2.1.GateStands (d.read s).2.2.signals ∧ (d.read s).2.1.gate = d.gate ∧
      s.signals.GrowsTo (d.read s).2.2.signals := by
  obtain ⟨⟨t, hdevice⟩, _, hgrows⟩ := d.read_keeps s
  rw [hdevice]
  exact ⟨(stands.grow hgrows).congr rfl rfl, rfl, hgrows⟩

omit [LawfulTransport τ] in
theorem gate_unacquire {d : Device} {s : Shared τ} {r : Device × Shared τ}
    (stands : d.GateStands s.signals) (returned : d.unacquire s = some r) :
    r.1.GateStands r.2.signals ∧ r.1.gate = d.gate ∧ r.2.signals = s.signals := by
  rcases d.unacquire_cases s with h | ⟨_, h⟩ | ⟨acquired, h⟩ <;> rw [h] at returned <;>
    cases returned
  · exact ⟨stands, rfl, rfl⟩
  · exact ⟨stands.idle rfl rfl (by rw [acquired]; decide), rfl, rfl⟩

omit [LawfulTransport τ] in
theorem gate_close {d : Device} {s : Shared τ} {r : Device × Shared τ}
    (stands : d.GateStands s.signals) (returned : d.close s = some r) :
    r.1.GateStands r.2.signals ∧ (r.1.gate = d.gate ∨ r.1.gate = none) ∧
      r.2.signals = s.signals := by
  rcases d.close_cases s with h | ⟨_, h⟩ | ⟨_, h⟩ | ⟨_, h⟩ <;> rw [h] at returned <;>
    cases returned
  · exact ⟨stands, Or.inl rfl, rfl⟩
  · exact ⟨d.gateStands_shut _, Or.inr rfl, rfl⟩
  · exact ⟨d.gateStands_shut _, Or.inr rfl, rfl⟩

end Device

/-! ## All devices of a manager -/

namespace Manager

/-- Every device has a standing gate, and no gate but those of the devices before. -/
structure GatesKept (before after : List Device) (t t' : SignalTable) : Prop where
  stand : ∀ d' ∈ after, d'.GateStands t'
  gates : ∀ d' ∈ after, ∃ d ∈ before, d'.gate = d.gate
  grows : t.GrowsTo t'

namespace GatesKept

/-- When no device is left, only the flags matter. -/
theorem nil {ds : List Device} {t t' : SignalTable} (grows : t.GrowsTo t') :
    GatesKept ds [] t t' where
  stand := fun _ h => absurd h List.not_mem_nil
  gates := fun _ h => absurd h List.not_mem_nil
  grows := grows

/-- The first device, and then the others. -/
theorem cons {d d' : Device} {ds ds' : List Device} {t t' t'' : SignalTable}
    (stands : d'.GateStands t') (gate : d'.gate = d.gate) (grows : t.GrowsTo t')
    (others : GatesKept ds ds' t' t'') : GatesKept (d :: ds) (d' :: ds') t t'' where
  stand := fun e he => by
    rcases List.mem_cons.mp he with rfl | hmem
    · exact stands.grow others.grows
    · exact others.stand e hmem
  gates := fun e he => by
    rcases List.mem_cons.mp he with rfl | hmem
    · exact ⟨d, List.mem_cons_self, gate⟩
    · obtain ⟨e', he', hgate⟩ := others.gates e hmem
      exact ⟨e', List.mem_cons_of_mem d he', hgate⟩
  grows := grows.trans others.grows

end GatesKept

variable [Transport τ]

theorem gates_acquireEach [LawfulTransport τ] {ds : List Device} {s : Shared τ}
    (stand : ∀ d ∈ ds, d.GateStands s.signals) :
    GatesKept ds (acquireEach ds s).2.1 s.signals (acquireEach ds s).2.2.signals := by
  induction ds generalizing s with
  | nil => exact .nil s.signals.growsTo_refl
  | cons d rest ih =>
    obtain ⟨hstands, hgate, hgrows⟩ := Device.gate_acquire (stand d List.mem_cons_self)
    exact .cons hstands hgate hgrows
      (ih fun e he => (stand e (List.mem_cons_of_mem d he)).grow hgrows)

theorem gates_readEach {ds : List Device} {s : Shared τ}
    (stand : ∀ d ∈ ds, d.GateStands s.signals) :
    GatesKept ds (readEach ds s).2.1 s.signals (readEach ds s).2.2.signals := by
  induction ds generalizing s with
  | nil => exact .nil s.signals.growsTo_refl
  | cons d rest ih =>
    obtain ⟨hstands, hgate, hgrows⟩ := Device.gate_read (stand d List.mem_cons_self)
    exact .cons hstands hgate hgrows
      (ih fun e he => (stand e (List.mem_cons_of_mem d he)).grow hgrows)

theorem signals_closeEach {ds : List Device} {s s' : Shared τ}
    (returned : closeEach ds s = some s') : s'.signals = s.signals := by
  induction ds generalizing s with
  | nil =>
    cases returned
    rfl
  | cons d rest ih =>
    obtain ⟨r, hclose, hrest⟩ := Option.bind_eq_some_iff.mp returned
    exact (ih hrest).trans (Device.signals_close hclose)

theorem signals_shutdown {m : Manager} {s : Shared τ} {r : Manager × Shared τ}
    (returned : m.shutdown s = some r) : r.2.signals = s.signals := by
  obtain ⟨s', hclose, rfl⟩ := Option.map_eq_some_iff.mp returned
  exact signals_closeEach hclose

theorem signals_acquireEach (ds : List Device) (s : Shared τ) :
    s.signals.GrowsTo (acquireEach ds s).2.2.signals := by
  induction ds generalizing s with
  | nil => exact s.signals.growsTo_refl
  | cons d rest ih => exact (d.signals_acquire s).trans (ih (d.acquire s).2.2)

theorem signals_readEach (ds : List Device) (s : Shared τ) :
    s.signals.GrowsTo (readEach ds s).2.2.signals := by
  induction ds generalizing s with
  | nil => exact s.signals.growsTo_refl
  | cons d rest ih => exact (d.read_keeps s).2.2.trans (ih (d.read s).2.2)

end Manager

/-! ## Hosts -/

namespace Host

/-- The gate of every device stands, and no handle that the host watches is a gate. -/
structure Gated (h : Host τ) : Prop where
  stands : ∀ target d, h.device? target = some d → d.GateStands h.shared.signals
  apart : ∀ target d, h.device? target = some d → ∀ w ∈ h.watched, d.gate ≠ some w.2
  known : ∀ w ∈ h.watched, w.2.index < h.shared.signals.flags.length

theorem device?_fresh (link : τ) (target : DeviceRef) : (fresh link).device? target = none := by
  cases target <;> rfl

theorem gated_fresh (link : τ) : (fresh link).Gated := by
  refine ⟨fun target d hd => ?_, fun target d hd => ?_, nofun⟩
  · rw [device?_fresh] at hd
    cases hd
  · rw [device?_fresh] at hd
    cases hd

theorem watched_setDevice (h : Host τ) (d : Device) (target : DeviceRef) :
    (h.setDevice d target).watched = h.watched := by
  cases target with
  | own n => rfl
  | managed k n =>
    simp only [setDevice]
    split <;> rfl

namespace Gated

variable {h h' : Host τ}

theorem of_manager {k : Nat} {m : Manager} (gated : h.Gated) (placed : h.manager? k = some m) :
    ∀ d ∈ m.devices, d.GateStands h.shared.signals ∧ ∀ w ∈ h.watched, d.gate ≠ some w.2 := by
  intro d hd
  obtain ⟨n, hn⟩ := List.mem_iff_getElem?.mp hd
  have hplace : h.device? (.managed k n) = some d := Option.bind_eq_some_iff.mpr ⟨m, placed, hn⟩
  exact ⟨gated.stands _ d hplace, gated.apart _ d hplace⟩

/-- Flags were raised and added, and no device has a new gate. -/
theorem step (gated : h.Gated) (watched : h'.watched = h.watched)
    (grows : h.shared.signals.GrowsTo h'.shared.signals)
    (devices : h.Keeps
      (fun d => ¬ (d.GateStands h'.shared.signals ∧ ∀ w ∈ h.watched, d.gate ≠ some w.2)) h') :
    h'.Gated := by
  have each : ∀ target d, h'.device? target = some d →
      d.GateStands h'.shared.signals ∧ ∀ w ∈ h.watched, d.gate ≠ some w.2 := by
    intro target d hd
    refine Classical.byContradiction fun fails => ?_
    obtain ⟨old, hold, hfails⟩ := devices target d hd fails
    exact hfails ⟨(gated.stands target old hold).grow grows, gated.apart target old hold⟩
  refine ⟨fun target d hd => (each target d hd).1, ?_, ?_⟩
  · rw [watched]
    exact fun target d hd => (each target d hd).2
  · rw [watched]
    exact fun w hw => Nat.lt_of_lt_of_le (gated.known w hw) grows.length_le

/-- Neither devices nor flags have changed. -/
theorem same (gated : h.Gated) (devices : h'.devices = h.devices)
    (managers : h'.managers = h.managers) (watched : h'.watched = h.watched)
    (grows : h.shared.signals.GrowsTo h'.shared.signals) : h'.Gated :=
  gated.step watched grows (keeps_of_places devices managers)

/-- One device was replaced by one with the same gate. -/
theorem setDevice {target : DeviceRef} {old d : Device} {s : Shared τ} (gated : h.Gated)
    (placed : h.device? target = some old) (stands : d.GateStands s.signals)
    (gate : d.gate = old.gate ∨ d.gate = none) (grows : h.shared.signals.GrowsTo s.signals) :
    ({ h with shared := s }.setDevice d target).Gated := by
  have hshared : ({ h with shared := s }.setDevice d target).shared = s :=
    shared_setDevice _ d target
  refine gated.step (watched_setDevice _ d target) (by rwa [hshared]) ?_
  rw [hshared]
  refine keeps_setDevice (h := { h with shared := s }) placed fun fails => absurd ⟨stands, ?_⟩ fails
  intro w hw
  rcases gate with hgate | hgate
  · rw [hgate]
    exact gated.apart target old placed w hw
  · rw [hgate]
    exact nofun

/-- The devices of one manager were replaced by ones with the same gates. -/
theorem setManager {k : Nat} {old m : Manager} {s : Shared τ} (gated : h.Gated)
    (placed : h.manager? k = some old)
    (kept : Manager.GatesKept old.devices m.devices h.shared.signals s.signals) :
    ({ h with shared := s }.setManager m k).Gated := by
  refine gated.step rfl kept.grows ?_
  refine keeps_setManager (h := { h with shared := s }) placed fun n d' hn fails => ?_
  have hmem := List.mem_of_getElem? hn
  obtain ⟨d, hd, hgate⟩ := kept.gates d' hmem
  refine absurd ⟨kept.stand d' hmem, ?_⟩ fails
  rw [hgate]
  exact (gated.of_manager placed d hd).2

/-- A handle was lowered that is no gate. -/
theorem lower (gated : h.Gated) {w : WaitHandle}
    (spared : ∀ target d, h.device? target = some d → d.gate ≠ some w) :
    { h with shared := { h.shared with signals := h.shared.signals.lower w } }.Gated := by
  have hlength : (h.shared.signals.lower w).flags.length = h.shared.signals.flags.length := by
    simp [SignalTable.lower]
  refine ⟨fun other e he => ?_, gated.apart, fun v hv => hlength ▸ gated.known v hv⟩
  refine (gated.stands other e he).kept (Nat.le_of_eq hlength.symm) fun g hg hup => ?_
  exact SignalTable.isSet_lower_ne (fun hsame => spared other e he (hsame ▸ hg)) hup

/-- No handle that is watched so far is the gate of a new device. -/
theorem create [Transport τ] (gated : h.Gated) {version : UInt32} {new : Device}
    (made : (Device.create h.shared version).1 = .ok new) :
    new.GateStands (Device.create h.shared version).2.signals ∧
      ∀ w ∈ h.watched, new.gate ≠ some w.2 := by
  refine ⟨Device.gateStands_create made, fun w hw hsame => ?_⟩
  rw [(Device.gate_create made).1] at hsame
  have hindex : h.shared.signals.flags.length = w.2.index :=
    congrArg WaitHandle.index (Option.some.inj hsame)
  exact absurd hindex (Nat.ne_of_gt (gated.known w hw))

end Gated

/-! ## Actions and runs -/

section

variable [Transport τ] [LawfulTransport τ] {h : Host τ}

theorem gated_performOnDevice (gated : h.Gated) {target : DeviceRef} {d : Device}
    (placed : h.device? target = some d) (action : DeviceAction) :
    (h.performOnDevice target d action).2.Gated := by
  have stands := gated.stands target d placed
  cases action with
  | acquire =>
    obtain ⟨hstands, hgate, hgrows⟩ := Device.gate_acquire stands
    exact gated.setDevice placed hstands (Or.inl hgate) hgrows
  | read =>
    obtain ⟨hstands, hgate, hgrows⟩ := Device.gate_read stands
    exact gated.setDevice placed hstands (Or.inl hgate) hgrows
  | unacquire =>
    simp only [performOnDevice]
    split
    · next r hr =>
      obtain ⟨hstands, hgate, hsignals⟩ := Device.gate_unacquire stands hr
      refine gated.setDevice placed hstands (Or.inl hgate) ?_
      rw [hsignals]
      exact h.shared.signals.growsTo_refl
    · exact gated
  | close =>
    simp only [performOnDevice]
    split
    · next r hr =>
      obtain ⟨hstands, hgate, hsignals⟩ := Device.gate_close stands hr
      refine gated.setDevice placed hstands hgate ?_
      rw [hsignals]
      exact h.shared.signals.growsTo_refl
    · exact gated
  | setCalibration filter c =>
    obtain ⟨cs, hdevice⟩ := d.setCalibration_frame filter c
    simp only [performOnDevice, hdevice]
    exact gated.setDevice placed (stands.congr rfl rfl) (Or.inl rfl) h.shared.signals.growsTo_refl
  | notifyOn =>
    have hset := gated.setDevice (d := { d with notify := some h.shared.signals.fresh.1 })
      (s := h.shared) placed (stands.congr rfl rfl) (Or.inl rfl) h.shared.signals.growsTo_refl
    have hgrows := h.shared.signals.growsTo_fresh
    have hshared := h.shared_setDevice { d with notify := some h.shared.signals.fresh.1 } target
    have hwatched := h.watched_setDevice { d with notify := some h.shared.signals.fresh.1 } target
    -- every gate and every handle so far is older than the new handle
    refine ⟨fun other e he => ?_, fun other e he w hw hsame => ?_, fun w hw => ?_⟩
    · have hstands := hset.stands other e he
      rw [hshared] at hstands
      exact hstands.grow hgrows
    · rcases List.mem_cons.mp hw with rfl | hold
      · have hin := (hset.stands other e he).inTable _ hsame
        rw [hshared] at hin
        exact absurd hin (Nat.lt_irrefl _)
      · exact hset.apart other e he w hold hsame
    · show w.2.index < h.shared.signals.fresh.2.flags.length
      rcases List.mem_cons.mp hw with rfl | hold
      · simp [SignalTable.fresh]
      · rw [hwatched] at hold
        exact Nat.lt_of_lt_of_le (gated.known w hold) hgrows.length_le
  | notifyOff =>
    exact gated.setDevice (s := h.shared) placed (stands.congr rfl rfl) (Or.inl rfl)
      h.shared.signals.growsTo_refl
  | notifyReset =>
    simp only [performOnDevice]
    split
    · next w hw =>
      obtain ⟨entry, hentry, rfl⟩ := Option.map_eq_some_iff.mp hw
      have hmem : entry ∈ h.watched := List.mem_of_find?_eq_some hentry
      -- the handle that is lowered is no gate
      exact gated.lower fun other e he => gated.apart other e he entry hmem
    · exact gated

theorem gated_performOnManager (gated : h.Gated) {k : Nat} {m : Manager}
    (placed : h.manager? k = some m) (action : ManagerAction) :
    (h.performOnManager k m action).2.Gated := by
  have stand := fun d hd => (gated.of_manager placed d hd).1
  have kept : Manager.GatesKept m.devices m.devices h.shared.signals h.shared.signals :=
    ⟨stand, fun d hd => ⟨d, hd, rfl⟩, h.shared.signals.growsTo_refl⟩
  cases action with
  | discover => exact gated.same rfl rfl rfl h.shared.signals.growsTo_refl
  | openGamepad =>
    have hgrows := Device.signals_create h.shared m.settings.version
    simp only [performOnManager, Manager.openGamepad]
    split
    · exact gated.setManager (s := (Device.create h.shared m.settings.version).2) placed
        ⟨fun d hd => (stand d hd).grow hgrows, kept.gates, hgrows⟩
    · next new made =>
      refine gated.step rfl hgrows (keeps_setManager
        (h := { h with shared := (Device.create h.shared m.settings.version).2 }) placed
        fun n d hn fails => ?_)
      rcases getElem?_of_append_singleton hn with hold | rfl
      · exact ⟨d, hold, fails⟩
      · exact absurd (gated.create made) fails
  | acquireAll => exact gated.setManager placed (Manager.gates_acquireEach stand)
  | poll => exact gated.setManager placed (Manager.gates_readEach stand)
  | drain => exact gated.setManager (s := h.shared) placed kept
  | shutdown =>
    simp only [performOnManager]
    split
    · next r hr =>
      obtain ⟨s', hclose, rfl⟩ := Option.map_eq_some_iff.mp hr
      have hsignals := Manager.signals_closeEach hclose
      refine gated.setManager placed (.nil ?_)
      rw [hsignals]
      exact h.shared.signals.growsTo_refl
    · exact gated
  | drop =>
    simp only [performOnManager]
    split
    · next r hr =>
      obtain ⟨s', hclose, rfl⟩ := Option.map_eq_some_iff.mp hr
      refine gated.step rfl ?_ (h.keeps_dropManager s' k)
      rw [Manager.signals_closeEach hclose]
      exact h.shared.signals.growsTo_refl
    · exact gated

theorem gated_perform (gated : h.Gated) (a : Action) : (h.perform a).2.Gated := by
  have hrefl := h.shared.signals.growsTo_refl
  cases a with
  | connect | disconnect | acquire | release | receive | drawSequence =>
    exact gated.same rfl rfl rfl hrefl
  | discover | probe => exact gated.same rfl rfl rfl hrefl
  | create version =>
    have hgrows := Device.signals_create h.shared version
    simp only [perform]
    split
    · next new made =>
      exact gated.step rfl hgrows (h.keeps_create _ (Classical.not_not.mpr (gated.create made)))
    · exact gated.same rfl rfl rfl hgrows
  | drop place =>
    simp only [perform]
    split
    · exact gated
    · next d placed =>
      split
      · next r hr =>
        obtain ⟨_, _, hsignals⟩ := Device.gate_close (gated.stands _ d placed) hr
        refine gated.step rfl ?_ (h.keeps_dropDevice r.2 place)
        rw [hsignals]
        exact hrefl
      · exact gated
  | device target action =>
    cases hd : h.device? target with
    | none =>
      simp only [perform, hd]
      exact gated
    | some d =>
      simp only [perform, hd]
      exact gated_performOnDevice gated hd action
  | manage settings => exact gated.step rfl hrefl (h.keeps_manage settings)
  | manager k action =>
    cases hm : h.manager? k with
    | none =>
      rw [perform_of_absent_manager hm]
      exact gated
    | some m =>
      simp only [perform, hm]
      exact gated_performOnManager gated hm action

end

end Host

end RemotePad
