import RemotePad.Proofs.Device.Lifecycle
import RemotePad.Proofs.Host.Places
import RemotePad.Proofs.Session.Answers

/-!
# What devices keep for life

Many devices share a session, and each is made and used by operations of its own.  What every
device is made with, and no operation on it takes away, is true of all devices at any time.

* `Device.Kept`: a property that no operation on a device takes away.  `Host.kept_perform`: after an
  action all devices have it, if a device that was made has it.
* `Device.Lifelong`: every device is made with it.  `Host.lifelong_perform` and
  `Host.lifelong_run`: after every action and every run all devices have it.
* `Device.Arises`: how the layout, the calibrations and the tracker of a device come about.  There
  are three ways to go on: a new layout, which starts anew, a sample, and a new calibration.
* `Host.arises_run`: the devices of a host come about in no other way.
-/

namespace RemotePad

variable {τ : Type} [Transport τ]

/-! ## Devices -/

namespace Device

/-- A property that whatever is done to a device leaves to it. -/
structure Kept (τ : Type) [Transport τ] (P : Device → Prop) : Prop where
  acquire : ∀ {d : Device} (s : Shared τ), P d → P (d.acquire s).2.1
  read : ∀ {d : Device} (s : Shared τ), P d → P (d.read s).2.1
  setCalibration : ∀ {d : Device} (filter : ObjectFilter) (c : Calibration),
    P d → P (d.setCalibration filter c).2
  bound : ∀ {d : Device}, d.lifecycle = .acquired → P d → P { d with lifecycle := .bound }
  shut : ∀ {d : Device}, P d → P d.shut
  notify : ∀ {d : Device} (w : Option WaitHandle), P d → P { d with notify := w }

/-- A property that every device is made with, and that whatever is done to it leaves to it. -/
structure Lifelong (τ : Type) [Transport τ] (P : Device → Prop) : Prop extends Kept τ P where
  made : ∀ {s : Shared τ} {version : UInt32} {d : Device}, (create s version).1 = .ok d → P d

namespace Kept

variable {P : Device → Prop}

theorem unacquire (law : Kept τ P) {d : Device} {s : Shared τ} {r : Device × Shared τ}
    (returned : d.unacquire s = some r) (holds : P d) : P r.1 := by
  rcases d.unacquire_cases s with h | ⟨_, h⟩ | ⟨acquired, h⟩ <;> rw [h] at returned <;>
    cases returned
  · exact holds
  · exact law.bound acquired holds

theorem close (law : Kept τ P) {d : Device} {s : Shared τ} {r : Device × Shared τ}
    (returned : d.close s = some r) (holds : P d) : P r.1 := by
  rcases d.close_cases s with h | ⟨_, h⟩ | ⟨_, h⟩ | ⟨_, h⟩ <;> rw [h] at returned <;>
    cases returned
  · exact holds
  · exact law.shut holds
  · exact law.shut holds

theorem acquireEach (law : Kept τ P) {ds : List Device} {s : Shared τ}
    (holds : ∀ d ∈ ds, P d) : ∀ d ∈ (Manager.acquireEach ds s).2.1, P d := by
  induction ds generalizing s with
  | nil => exact holds
  | cons d rest ih =>
    obtain ⟨hfirst, hrest⟩ := List.forall_mem_cons.mp holds
    exact List.forall_mem_cons.mpr ⟨law.acquire s hfirst, ih hrest⟩

theorem readEach (law : Kept τ P) {ds : List Device} {s : Shared τ}
    (holds : ∀ d ∈ ds, P d) : ∀ d ∈ (Manager.readEach ds s).2.1, P d := by
  induction ds generalizing s with
  | nil => exact holds
  | cons d rest ih =>
    obtain ⟨hfirst, hrest⟩ := List.forall_mem_cons.mp holds
    exact List.forall_mem_cons.mpr ⟨law.read s hfirst, ih hrest⟩

end Kept

end Device

/-! ## Hosts -/

namespace Host

/-- Every device has the property. -/
def Everywhere (P : Device → Prop) (h : Host τ) : Prop :=
  ∀ target d, h.device? target = some d → P d

namespace Everywhere

variable {P : Device → Prop} {h h' : Host τ}

omit [Transport τ] in
/-- No device newly lacks the property. -/
theorem of_keeps (holds : h.Everywhere P) (keeps : h.Keeps (fun d => ¬ P d) h') :
    h'.Everywhere P := by
  intro target d hd
  refine Classical.byContradiction fun lacks => ?_
  obtain ⟨old, hold, lacked⟩ := keeps target d hd lacks
  exact lacked (holds target old hold)

omit [Transport τ] in
theorem fresh (link : τ) : (Host.fresh link).Everywhere P := by
  intro target d hd
  cases target <;> cases hd

omit [Transport τ] in
theorem of_manager {k : Nat} {m : Manager} (holds : h.Everywhere P)
    (placed : h.manager? k = some m) : ∀ d ∈ m.devices, P d := by
  intro d hd
  obtain ⟨n, hn⟩ := List.mem_iff_getElem?.mp hd
  exact holds (.managed k n) d (Option.bind_eq_some_iff.mpr ⟨m, placed, hn⟩)

omit [Transport τ] in
theorem setDevice {target : DeviceRef} {old d : Device} (s : Shared τ) (holds : h.Everywhere P)
    (placed : h.device? target = some old) (new : P d) :
    ({ h with shared := s }.setDevice d target).Everywhere P :=
  holds.of_keeps (keeps_setDevice (h := { h with shared := s }) placed fun lacks =>
    absurd new lacks)

omit [Transport τ] in
theorem setManager {k : Nat} {old m : Manager} (s : Shared τ) (holds : h.Everywhere P)
    (placed : h.manager? k = some old) (new : ∀ d ∈ m.devices, P d) :
    ({ h with shared := s }.setManager m k).Everywhere P :=
  holds.of_keeps (keeps_setManager (h := { h with shared := s }) placed fun _ d hn lacks =>
    absurd (new d (List.mem_of_getElem? hn)) lacks)

end Everywhere

variable {P : Device → Prop} {h : Host τ}

theorem kept_performOnDevice (law : Device.Kept τ P) (holds : h.Everywhere P)
    {target : DeviceRef} {d : Device} (placed : h.device? target = some d)
    (action : DeviceAction) : (h.performOnDevice target d action).2.Everywhere P := by
  have own := holds target d placed
  cases action with
  | acquire => exact holds.setDevice _ placed (law.acquire h.shared own)
  | read => exact holds.setDevice _ placed (law.read h.shared own)
  | unacquire =>
    simp only [performOnDevice]
    split
    · next r hr => exact holds.setDevice r.2 placed (law.unacquire hr own)
    · exact holds
  | close =>
    simp only [performOnDevice]
    split
    · next r hr => exact holds.setDevice r.2 placed (law.close hr own)
    · exact holds
  | setCalibration filter c =>
    exact holds.setDevice h.shared placed (law.setCalibration filter c own)
  | notifyOn => exact holds.setDevice h.shared placed (law.notify _ own)
  | notifyOff => exact holds.setDevice h.shared placed (law.notify none own)
  | notifyReset =>
    simp only [performOnDevice]
    split <;> exact holds

theorem kept_performOnManager (law : Device.Kept τ P) (holds : h.Everywhere P) {k : Nat}
    {m : Manager} (placed : h.manager? k = some m) (action : ManagerAction)
    (made : ∀ version d, (Device.create h.shared version).1 = .ok d →
      (h.performOnManager k m action).2.shared = (Device.create h.shared version).2 → P d) :
    (h.performOnManager k m action).2.Everywhere P := by
  have own := holds.of_manager placed
  cases action with
  | discover => exact holds
  | openGamepad =>
    simp only [performOnManager, Manager.openGamepad] at made ⊢
    split
    · exact holds.setManager _ placed own
    · next new hmade =>
      refine holds.setManager _ placed fun d hd => ?_
      rcases List.mem_append.mp hd with hold | hnew
      · exact own d hold
      · rw [List.mem_singleton.mp hnew]
        exact made m.settings.version new hmade (by rw [hmade]; rfl)
  | acquireAll => exact holds.setManager _ placed (law.acquireEach own)
  | poll => exact holds.setManager _ placed (law.readEach own)
  | drain => exact holds.setManager h.shared placed own
  | shutdown =>
    simp only [performOnManager]
    split
    · next r hr =>
      obtain ⟨_, _, rfl⟩ := Option.map_eq_some_iff.mp hr
      exact holds.setManager _ placed fun d hd => absurd hd List.not_mem_nil
    · exact holds
  | drop =>
    simp only [performOnManager]
    split
    · exact holds.of_keeps (h.keeps_dropManager _ k)
    · exact holds

/-- After an action all devices still have the property, if one that was made has it. -/
theorem kept_perform (law : Device.Kept τ P) (holds : h.Everywhere P) (a : Action)
    (made : ∀ version d, (Device.create h.shared version).1 = .ok d →
      (h.perform a).2.shared = (Device.create h.shared version).2 → P d) :
    (h.perform a).2.Everywhere P := by
  cases a with
  | connect | disconnect | acquire | release | receive | drawSequence => exact holds
  | discover | probe => exact holds
  | create version =>
    simp only [perform] at made ⊢
    split
    · next new hmade =>
      have hnew : P new := made version new hmade (by rw [hmade])
      exact holds.of_keeps (h.keeps_create _ (not_not_intro hnew))
    · exact holds
  | drop place =>
    simp only [perform]
    split
    · exact holds
    · split
      · exact holds.of_keeps (h.keeps_dropDevice _ place)
      · exact holds
  | device target action =>
    cases hd : h.device? target with
    | none =>
      simp only [perform, hd]
      exact holds
    | some d =>
      simp only [perform, hd]
      exact kept_performOnDevice law holds hd action
  | manage settings => exact holds.of_keeps (h.keeps_manage settings)
  | manager k action =>
    cases hm : h.manager? k with
    | none =>
      rw [perform_of_absent_manager hm]
      exact holds
    | some m =>
      simp only [perform, hm] at made ⊢
      exact kept_performOnManager law holds hm action made

/-- After an action all devices still have a lifelong property. -/
theorem lifelong_perform (law : Device.Lifelong τ P) (holds : h.Everywhere P) (a : Action) :
    (h.perform a).2.Everywhere P :=
  kept_perform law.toKept holds a fun _ _ made _ => law.made made

/-- So they have after every run of a new host. -/
theorem lifelong_run (law : Device.Lifelong τ P) (link : τ) (acts : List Action) :
    ((fresh link).run acts).2.Everywhere P := by
  -- The rest of a run starts from any host, so the induction is over all of them.
  have run : ∀ h : Host τ, h.Everywhere P → (h.run acts).2.Everywhere P := by
    induction acts with
    | nil => exact fun h holds => holds
    | cons a rest ih => exact fun h holds => ih (h.perform a).2 (lifelong_perform law holds a)
  exact run (fresh link) (.fresh link)

end Host

/-! ## Layout, calibrations and tracker -/

namespace Device

/-- How the layout, the calibrations and the tracker of a device come about. -/
inductive Arises : Layout → CalibrationTable → Tracker → Prop where
  /-- By a pad of that layout: nobody calibrated it, and it has seen nothing. -/
  | anew (l : Layout) : Arises l (defaultCalibrations l) {}
  /-- By a sample under that layout and these calibrations. -/
  | observed {l : Layout} {table : CalibrationTable} {t : Tracker} (earlier : Arises l table t)
      (x : Sample) : Arises l table (Tracker.observe l table x t).1
  /-- By a calibration of the first object that a filter selects, if that is an axis. -/
  | calibrated {l : Layout} {table : CalibrationTable} {t : Tracker} (earlier : Arises l table t)
      {filter : ObjectFilter} {index : Nat} {o : ObjectDescriptor}
      (first : l.find filter = some (index, o)) (axis : o.id.kind = .axis) (c : Calibration) :
      Arises l (table.set index (some c)) t

theorem arises_create {s : Shared τ} {version : UInt32} {d : Device}
    (made : (create s version).1 = .ok d) : Arises d.layout d.calibrations d.tracker := by
  unfold create at made
  simp only at made
  split at made
  · cases made
    exact .anew _
  · cases made
  · cases made

omit [Transport τ] in
/-- A device that adopts its own layout stays as it is, and any other starts anew. -/
theorem arises_adopt {d : Device} (arises : Arises d.layout d.calibrations d.tracker)
    (l : Layout) : Arises (d.adopt l).layout (d.adopt l).calibrations (d.adopt l).tracker := by
  unfold adopt
  split
  · exact arises
  · exact .anew l

theorem arises_acquire {d : Device} (arises : Arises d.layout d.calibrations d.tracker)
    (s : Shared τ) : Arises (d.acquire s).2.1.layout (d.acquire s).2.1.calibrations
      (d.acquire s).2.1.tracker := by
  rcases d.acquire_granted s with ⟨b, _, hdevice⟩ | ⟨_, hdevice⟩
  · rw [hdevice]
    exact arises_adopt arises b.layout
  · rw [hdevice]
    exact arises

theorem arises_read {d : Device} (arises : Arises d.layout d.calibrations d.tracker)
    (s : Shared τ) : Arises (d.read s).2.1.layout (d.read s).2.1.calibrations
      (d.read s).2.1.tracker := by
  rcases d.read_cases s with ⟨_, hread⟩ | ⟨_, _, _, _, hread⟩ | ⟨_, report, _, hread⟩
  · rw [hread]
    exact arises
  · rw [hread]
    exact arises
  · rw [hread]
    simp only [accept]
    split
    · exact arises.observed report.sample
    · exact arises

theorem arises_setCalibration {d : Device} (arises : Arises d.layout d.calibrations d.tracker)
    (filter : ObjectFilter) (c : Calibration) :
    Arises (d.setCalibration filter c).2.layout (d.setCalibration filter c).2.calibrations
      (d.setCalibration filter c).2.tracker := by
  unfold setCalibration
  split
  · next index o first =>
    split
    · next axis => exact arises.calibrated first axis c
    · exact arises
  · exact arises

theorem lifelong_arises :
    Lifelong τ fun d => Arises d.layout d.calibrations d.tracker where
  made := arises_create
  acquire := fun s arises => arises_acquire arises s
  read := fun s arises => arises_read arises s
  setCalibration := fun filter c arises => arises_setCalibration arises filter c
  bound := fun _ arises => arises
  shut := fun arises => arises
  notify := fun _ arises => arises

end Device

/-- Whatever was done with a session, layout, calibrations and tracker of each of its devices
have come about in these ways. -/
theorem Host.arises_run (link : τ) (acts : List Action) {place : DeviceRef} {d : Device}
    (placed : ((fresh link).run acts).2.device? place = some d) :
    Device.Arises d.layout d.calibrations d.tracker :=
  lifelong_run Device.lifelong_arises link acts place d placed

end RemotePad
