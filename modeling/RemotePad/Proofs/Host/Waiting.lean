import Mathlib.Data.List.Infix
import RemotePad.Proofs.Host.Buffers
import RemotePad.Proofs.Host.Happenings
import RemotePad.Proofs.Host.Stages
import RemotePad.Transport.Scripted

/-!
# Calls that wait

A device that gives its pad back waits at its gate, with no limit of time.  The gate is a
handle that the host can get hold of.  So whether these calls come back depends on what the
host does with handles, and on nothing that the peer does.

* `Host.SparesGates`: no gate is lowered while a device has it.
* `Host.gated_undergo`, `Host.gated_after`: all gates stand after every happening that spares
  them, and so after every course of them.
* `Manager.closeEach_of_gateStands`: devices whose gates stand are all closed.  The session is
  idle afterwards if one of them was acquired, and otherwise it is as before.
* `Host.returned_perform`: over standing gates every call comes back.
* `teardown_returns`: what this means for the ways in which a device ends.
-/

namespace RemotePad

/-- None of these gates is lowered. -/
def Happening.Spares {τ : Type} (gates : List WaitHandle) : Happening τ → Prop
  | .lower w => w ∉ gates
  | _ => True

instance {τ : Type} (gates : List WaitHandle) (x : Happening τ) : Decidable (x.Spares gates) :=
  match x with
  | .lower w => inferInstanceAs (Decidable (w ∉ gates))
  | .act _ | .peer _ | .makeHandle | .raise _ | .register _ _ => isTrue trivial

namespace Host

variable {τ : Type}

/-! ## Gates of all devices -/

/-- The devices of a host, its own and its managers'. -/
def everyDevice (h : Host τ) : List Device :=
  h.devices.filterMap id ++ (h.managers.filterMap id).flatMap Manager.devices

/-- The gates of all devices. -/
def gates (h : Host τ) : List WaitHandle :=
  h.everyDevice.filterMap Device.gate

theorem mem_everyDevice {h : Host τ} {target : DeviceRef} {d : Device}
    (placed : h.device? target = some d) : d ∈ h.everyDevice := by
  cases target with
  | own n =>
    have hmem : some d ∈ h.devices := List.mem_of_getElem? (Option.join_eq_some_iff.mp placed)
    exact List.mem_append_left _ (List.mem_filterMap.mpr ⟨some d, hmem, rfl⟩)
  | managed k n =>
    obtain ⟨m, hm, hd⟩ := Option.bind_eq_some_iff.mp placed
    have hmem : some m ∈ h.managers := List.mem_of_getElem? (Option.join_eq_some_iff.mp hm)
    exact List.mem_append_right _ (List.mem_flatMap.mpr
      ⟨m, List.mem_filterMap.mpr ⟨some m, hmem, rfl⟩, List.mem_of_getElem? hd⟩)

theorem mem_gates {h : Host τ} {target : DeviceRef} {d : Device} {w : WaitHandle}
    (placed : h.device? target = some d) (gate : d.gate = some w) : w ∈ h.gates :=
  List.mem_filterMap.mpr ⟨d, mem_everyDevice placed, gate⟩

/-! ## Courses that spare the gates -/

variable [Transport τ]

/-- No gate is lowered while a device has it. -/
def SparesGates (h : Host τ) : List (Happening τ) → Prop
  | [] => True
  | x :: rest => x.Spares h.gates ∧ (h.undergo x).SparesGates rest

instance decidableSparesGates (h : Host τ) :
    (course : List (Happening τ)) → Decidable (h.SparesGates course)
  | [] => isTrue trivial
  | x :: rest =>
    have := decidableSparesGates (h.undergo x) rest
    inferInstanceAs (Decidable (_ ∧ _))

/-! ## Gates along a course -/

theorem gated_undergo [LawfulTransport τ] {h : Host τ} (gated : h.Gated) {x : Happening τ}
    (spares : x.Spares h.gates) : (h.undergo x).Gated := by
  cases x with
  | act a => exact gated_perform gated a
  | peer change => exact gated.same rfl rfl rfl h.shared.signals.growsTo_refl
  | makeHandle => exact gated.same rfl rfl rfl h.shared.signals.growsTo_fresh
  | raise w => exact gated.same rfl rfl rfl (h.shared.signals.growsTo_raise? (some w))
  | lower w => exact gated.lower fun target d placed gate => spares (mem_gates placed gate)
  | register target w =>
    simp only [undergo]
    split
    · next d placed =>
      have stands := gated.stands target d placed
      exact gated.setDevice (s := h.shared) placed (stands.congr rfl rfl) (Or.inl rfl)
        h.shared.signals.growsTo_refl
    · exact gated

/-- All gates stand after a course that lowers none of them. -/
theorem gated_after [LawfulTransport τ] {h : Host τ} (gated : h.Gated)
    {course : List (Happening τ)} (spares : h.SparesGates course) : (h.after course).Gated := by
  induction course generalizing h with
  | nil => exact gated
  | cons x rest ih => exact ih (gated_undergo gated spares.1) spares.2

end Host

/-! ## Closed devices -/

variable {τ : Type} [Transport τ]

namespace Host

/-- A closed device stays closed, unless its place is given up. -/
theorem stage?_undergo_of_closed {h : Host τ} {place : DeviceRef}
    (closed : h.stage? place = some .closed) (x : Happening τ) :
    (h.undergo x).stage? place = some .closed ∨ (h.undergo x).stage? place = none := by
  have rests : ∀ h' : Host τ, h'.devices = h.devices → h'.managers = h.managers →
      h'.stage? place = some .closed := by
    intro h' hdevices hmanagers
    rw [← closed, stage?, stage?, device?_of_places hdevices hmanagers]
  cases x with
  | act a =>
    have moves := h.moves_perform a place
    show (h.perform a).2.stage? place = _ ∨ (h.perform a).2.stage? place = _
    generalize h.stage? place = before, (h.perform a).2.stage? place = after at moves closed ⊢
    cases moves with
    | rests => exact Or.inl closed
    | made | acquired | unacquired => cases closed
    | closed _ _ _ last => exact last
  | peer change | makeHandle | raise w | lower w => exact Or.inl (rests _ rfl rfl)
  | register target w =>
    left
    simp only [undergo]
    split
    · next d placed =>
      by_cases hplace : place = target
      · subst hplace
        rw [stage?_of_placed placed] at closed
        exact (stage?_setDevice h.shared placed _).trans closed
      · exact (stage?_setDevice_ne h.shared placed hplace).trans closed
    · exact closed

/-- As long as its place is not given up, a closed device is there and closed. -/
theorem stage?_after_of_closed {h : Host τ} {place : DeviceRef}
    (closed : h.stage? place = some .closed) {course : List (Happening τ)}
    (kept : ∀ early, early <+: course → ((h.after early).device? place).isSome = true) :
    (h.after course).stage? place = some .closed := by
  induction course using List.reverseRecOn with
  | nil => exact closed
  | append_singleton course x ih =>
    have hearlier := ih fun early hearly => kept early (hearly.trans (List.prefix_append course [x]))
    have hkept := kept _ (List.prefix_refl (course ++ [x]))
    rw [after_snoc] at hkept ⊢
    rcases stage?_undergo_of_closed hearlier x with hclosed | hgone
    · exact hclosed
    · rw [stage?, Option.map_eq_none_iff] at hgone
      rw [hgone] at hkept
      cases hkept

end Host

/-! ## Idle sessions -/

/-- Nothing is held: the transport is closed, and no pad is bound. -/
structure Session.Idle (s : Session τ) : Prop where
  closed : s.isOpen = false
  unbound : s.binding = none

theorem Session.idle_giveBack [LawfulTransport τ] (s : Session τ) : s.release.disconnect.Idle :=
  ⟨s.release.isOpen_disconnect, rfl⟩

/-! ## Closing devices -/

/-- A device whose gate stands is closed at once.  An acquired one gives its pad back, any
other leaves the session alone. -/
theorem Device.close_returns {d : Device} {s : Shared τ} (stands : d.GateStands s.signals) :
    ∃ d', d.close s = some (d', if d.lifecycle = .acquired
      then ⟨s.session.release.disconnect, s.signals⟩ else s) := by
  by_cases acquired : d.lifecycle = .acquired
  · rw [if_pos acquired]
    exact ⟨d.shut, close_of_gateStands stands acquired⟩
  · rw [if_neg acquired]
    by_cases closed : d.lifecycle = .closed
    · exact ⟨d, by rw [close, if_pos closed]⟩
    · refine ⟨d.shut, ?_⟩
      rw [close, if_neg closed, unacquire, if_neg acquired]
      rfl

/-- All devices are closed.  The session is idle afterwards if one of them was acquired, and
otherwise it is as before. -/
theorem Manager.closeEach_of_gateStands [LawfulTransport τ] {ds : List Device} {s : Shared τ}
    (stand : ∀ d ∈ ds, d.GateStands s.signals) :
    ∃ s', closeEach ds s = some s' ∧
      ((∃ d ∈ ds, d.lifecycle = .acquired) → s'.session.Idle) ∧
      ((∀ d ∈ ds, d.lifecycle ≠ .acquired) → s' = s) := by
  induction ds generalizing s with
  | nil => exact ⟨s, rfl, by simp, fun _ => rfl⟩
  | cons d rest ih =>
    have stands : d.GateStands s.signals := stand d List.mem_cons_self
    have others : ∀ e ∈ rest, e.GateStands s.signals :=
      fun e he => stand e (List.mem_cons_of_mem d he)
    obtain ⟨d', hclose⟩ := d.close_returns stands
    by_cases acquired : d.lifecycle = .acquired
    · rw [if_pos acquired] at hclose
      obtain ⟨s', hrest, hidle, hsame⟩ := ih (s := ⟨s.session.release.disconnect, s.signals⟩) others
      refine ⟨s', by rw [closeEach, hclose]; exact hrest, fun _ => ?_,
        fun none => absurd acquired (none d List.mem_cons_self)⟩
      -- the last acquired device gives back, and those after it do nothing
      by_cases later : ∃ e ∈ rest, e.lifecycle = .acquired
      · exact hidle later
      · rw [hsame fun e he hacquired => later ⟨e, he, hacquired⟩]
        exact s.session.idle_giveBack
    · rw [if_neg acquired] at hclose
      obtain ⟨s', hrest, hidle, hsame⟩ := ih others
      refine ⟨s', by rw [closeEach, hclose]; exact hrest, ?_,
        fun none => hsame fun e he => none e (List.mem_cons_of_mem d he)⟩
      rintro ⟨e, hmem, hacquired⟩
      rcases List.mem_cons.mp hmem with rfl | hlater
      · exact absurd hacquired acquired
      · exact hidle ⟨e, hlater, hacquired⟩

/-- A manager whose gates stand can be shut down.  It has no device afterwards, and its queue is
empty. -/
theorem Manager.shutdown_of_gateStands [LawfulTransport τ] {m : Manager} {s : Shared τ}
    (stand : ∀ d ∈ m.devices, d.GateStands s.signals) :
    ∃ s', m.shutdown s = some ({ m with devices := [], queue := m.queue.clear }, s') ∧
      ((∃ d ∈ m.devices, d.lifecycle = .acquired) → s'.session.Idle) ∧
      ((∀ d ∈ m.devices, d.lifecycle ≠ .acquired) → s' = s) := by
  obtain ⟨s', hclose, after⟩ := closeEach_of_gateStands stand
  refine ⟨s', ?_, after⟩
  rw [shutdown, hclose]
  rfl

/-! ## Calls that come back -/

/-- Over a standing gate a device gives its pad back, if it has one. -/
theorem Device.unacquire_returns {d : Device} {s : Shared τ} (stands : d.GateStands s.signals) :
    ∃ r, d.unacquire s = some r := by
  by_cases acquired : d.lifecycle = .acquired
  · exact ⟨_, unacquire_of_gateStands stands acquired⟩
  · exact ⟨(d, s), if_neg acquired⟩

namespace Host

variable {h : Host τ}

theorem perform_unacquire (gated : h.Gated) {target : DeviceRef} {d : Device}
    (placed : h.device? target = some d) :
    (h.perform (.device target .unacquire)).1 = .device (.ok ()) := by
  obtain ⟨r, hr⟩ := Device.unacquire_returns (gated.stands target d placed)
  simp only [perform, placed, performOnDevice, hr]

theorem perform_close (gated : h.Gated) {target : DeviceRef} {d : Device}
    (placed : h.device? target = some d) :
    (h.perform (.device target .close)).1 = .nothing := by
  obtain ⟨d', hclose⟩ := d.close_returns (gated.stands target d placed)
  simp only [perform, placed, performOnDevice, hclose]

theorem perform_drop (gated : h.Gated) (n : Nat) : (h.perform (.drop n)).1 = .nothing := by
  cases hd : h.device? (.own n) with
  | none => simp only [perform, hd]
  | some d =>
    obtain ⟨d', hclose⟩ := d.close_returns (gated.stands (.own n) d hd)
    simp only [perform, hd, hclose]

/-- A manager can be shut down, and then has no device; and it can be dropped. -/
theorem perform_shutdown [LawfulTransport τ] (gated : h.Gated) {k : Nat} {m : Manager}
    (placed : h.manager? k = some m) :
    (h.perform (.manager k .shutdown)).1 = .count 0 ∧
      (h.perform (.manager k .drop)).1 = .nothing := by
  obtain ⟨s', hshutdown, _⟩ :=
    Manager.shutdown_of_gateStands fun d hd => (gated.of_manager placed d hd).1
  simp only [perform, placed, performOnManager, hshutdown, List.length_nil, and_self]

/-- Every call comes back. -/
theorem returned_perform [LawfulTransport τ] (gated : h.Gated) (a : Action) :
    (h.perform a).1.returned = true := by
  cases a with
  | drop n => rw [perform_drop gated n]; rfl
  | device target action =>
    cases hd : h.device? target with
    | none =>
      simp only [perform, hd]
      rfl
    | some d =>
      cases action with
      | unacquire => rw [perform_unacquire gated hd]; rfl
      | close => rw [perform_close gated hd]; rfl
      | notifyReset =>
        simp only [perform, hd, performOnDevice]
        split <;> rfl
      | acquire | read | setCalibration | notifyOn | notifyOff =>
        simp only [perform, hd, performOnDevice]
        rfl
  | create version =>
    simp only [perform]
    split <;> rfl
  | manager k action =>
    cases hm : h.manager? k with
    | none => cases action <;> simp only [perform, hm] <;> rfl
    | some m =>
      cases action with
      | shutdown => rw [(perform_shutdown gated hm).1]; rfl
      | drop => rw [(perform_shutdown gated hm).2]; rfl
      | discover | openGamepad | acquireAll | poll | drain =>
        simp only [perform, hm, performOnManager]
        rfl
  | connect | disconnect | acquire | release | receive | drawSequence | discover | probe
  | manage => rfl

end Host

/-- Nothing hangs when devices end, however many share the session with a manager, whatever the
peer does, and whatever handles the host makes, raises, lowers and registers, as long as it
lowers no gate.  At any time an acquired device has a gate and it is up, a bound device has a
gate, and a closed one has none.  So the wait of an acquired device is over at once.  Giving
back, closing and dropping any device return, so do the shutdown and the drop of any manager,
and so does every other call.  A closed device stays closed and without a gate for as long as
the host keeps it. -/
theorem teardown_returns [LawfulTransport τ] (link : τ) (course : List (Happening τ))
    (spares : (Host.fresh link).SparesGates course) :
    let h := (Host.fresh link).after course
    (∀ target d, h.device? target = some d →
      (d.lifecycle = .acquired → ∃ g, d.gate = some g ∧ h.shared.signals.isSet g = true) ∧
      (d.lifecycle = .bound → ∃ g, d.gate = some g) ∧
      (d.lifecycle = .closed → d.gate = none) ∧
      (d.lifecycle = .acquired → d.passGate h.shared.signals = some ()) ∧
      (h.perform (.device target .unacquire)).1 = .device (.ok ()) ∧
      (h.perform (.device target .close)).1 = .nothing) ∧
    (∀ n, (h.perform (.drop n)).1 = .nothing) ∧
    (∀ k m, h.manager? k = some m →
      (h.perform (.manager k .shutdown)).1 = .count 0 ∧
      (h.perform (.manager k .drop)).1 = .nothing) ∧
    (∀ a, (h.perform a).1.returned = true) ∧
    ∀ place, h.stage? place = some .closed → ∀ more : List (Happening τ),
      (∀ early, early <+: more → ((h.after early).device? place).isSome = true) →
      ∃ d, (h.after more).device? place = some d ∧ d.lifecycle = .closed ∧ d.gate = none := by
  intro h
  have gated : h.Gated := Host.gated_after (Host.gated_fresh link) spares
  have has : h.Everywhere fun d => d.gate.isSome = true ↔ d.lifecycle ≠ .closed :=
    Host.lifelong_after Device.lifelong_gate (.fresh link) course
  refine ⟨fun target d placed => ?_, Host.perform_drop gated,
    fun k m placed => Host.perform_shutdown gated placed, Host.returned_perform gated,
    fun place closed more kept => ?_⟩
  · have stands := gated.stands target d placed
    have present : d.lifecycle ≠ .closed → ∃ g, d.gate = some g :=
      fun alive => Option.isSome_iff_exists.mp (stands.present alive)
    refine ⟨fun acquired => ?_, fun bound => present (by rw [bound]; decide),
      Device.gate_of_closed (has target d placed), stands.passGate,
      Host.perform_unacquire gated placed, Host.perform_close gated placed⟩
    obtain ⟨g, hg⟩ := present (by rw [acquired]; decide)
    exact ⟨g, hg, stands.raised acquired g hg⟩
  · obtain ⟨d, hd, hclosed⟩ := Host.stage?_eq_some.mp (Host.stage?_after_of_closed closed kept)
    have hhas := Host.lifelong_after Device.lifelong_gate has more place d hd
    exact ⟨d, hd, hclosed, Device.gate_of_closed hhas hclosed⟩

/-- A device fails to be acquired, has its own gate registered to be told of input, and is
acquired later; a device of a manager is bound; a third device is closed, and its gate is lowered
then. -/
theorem teardown_returns_three_devices :
    let pad := (Wire.GamepadResponse.encode ⟨7, ⟨0x0a⟩⟩ none).bytes
    let answers := fun n (p : ScriptedPeer) =>
      { p with inbox := List.replicate n (.ok (.ofBytes pad)) }
    let course : List (Happening ScriptedPeer) :=
      [.peer (answers 1), .act (.create 3), .act (.device (.own 0) .acquire), .makeHandle,
        .register (.own 0) (some ⟨0⟩), .lower ⟨1⟩, .act (.device (.own 0) .notifyOn),
        .peer (answers 4), .act (.device (.own 0) .acquire), .act (.device (.own 0) .notifyReset),
        .act (.manage .default), .act (.manager 0 .openGamepad), .act (.create 3),
        .act (.device (.own 1) .close), .lower ⟨4⟩]
    let more : List (Happening ScriptedPeer) := [.act (.device (.own 1) .acquire)]
    let h := (Host.fresh ({} : ScriptedPeer)).after course
    (Host.fresh ({} : ScriptedPeer)).SparesGates course ∧
    h.stage? (.own 0) = some .acquired ∧ h.stage? (.managed 0 0) = some .bound ∧
    h.stage? (.own 1) = some .closed ∧
    (∃ g, (h.device? (.own 0)).bind Device.gate = some g ∧ h.shared.signals.isSet g = true) ∧
    (h.perform (.device (.own 0) .unacquire)).1 = .device (.ok ()) ∧
    (h.perform (.device (.managed 0 0) .close)).1 = .nothing ∧
    (h.perform (.drop 0)).1 = .nothing ∧ (h.perform (.manager 0 .shutdown)).1 = .count 0 ∧
    ((h.after more).device? (.own 1)).bind Device.gate = none := by
  intro pad answers course more h
  have spares : (Host.fresh ({} : ScriptedPeer)).SparesGates course := by decide +kernel
  have hacquired : h.stage? (.own 0) = some .acquired := by decide +kernel
  have hbound : h.stage? (.managed 0 0) = some .bound := by decide +kernel
  have hclosed : h.stage? (.own 1) = some .closed := by decide +kernel
  obtain ⟨devices, drops, managers, -, stays⟩ :=
    teardown_returns ({} : ScriptedPeer) course spares
  obtain ⟨d, hd, acquired⟩ := Host.stage?_eq_some.mp hacquired
  obtain ⟨e, he, -⟩ := Host.stage?_eq_some.mp hbound
  obtain ⟨m, hm⟩ : ∃ m, h.manager? 0 = some m :=
    Option.isSome_iff_exists.mp (by decide +kernel)
  obtain ⟨raised, -, -, -, gives, -⟩ := devices (.own 0) d hd
  obtain ⟨-, -, -, -, -, closes⟩ := devices (.managed 0 0) e he
  have kept : ∀ early ∈ more.inits, ((h.after early).device? (.own 1)).isSome = true := by
    decide +kernel
  obtain ⟨f, hf, -, gateless⟩ :=
    stays (.own 1) hclosed more fun early hearly => kept early ((List.mem_inits early more).mpr hearly)
  refine ⟨spares, hacquired, hbound, hclosed, ?_, gives, closes, drops 0, (managers 0 m hm).1, ?_⟩
  · rw [hd]
    exact raised acquired
  · rw [hf]
    exact gateless

end RemotePad
