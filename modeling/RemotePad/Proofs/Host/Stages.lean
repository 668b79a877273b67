import RemotePad.Proofs.Host.Turns
import RemotePad.Proofs.Host.Places
import RemotePad.Proofs.Manager.Devices

/-!
# How devices go through their lives

A device is made bound.  From there it moves only by what is done to it in its own place: it is
acquired when its acquisition succeeds, it is bound again when it gives its pad back, and it is
closed for good when it is closed, dropped, or shut down with its manager.

* `Host.closings` are the turns in which devices are closed during an action.
* `Host.Moves`: what an action may do to the stage of life in a place.
* `Host.moves_perform`: it does nothing else.
-/

namespace RemotePad

variable {τ : Type} [Transport τ]

/-! ## Stages after the operations of a device -/

namespace Device

/-- Only a successful acquisition of a bound device changes its stage. -/
theorem stage_acquire (d : Device) (s : Shared τ) :
    (d.acquire s).2.1.lifecycle = d.lifecycle ∨
      (d.lifecycle = .bound ∧ (d.acquire s).1 = .ok () ∧
        (d.acquire s).2.1.lifecycle = .acquired) := by
  cases hd : d.lifecycle with
  | closed =>
    simp only [acquire, hd]
    exact Or.inl trivial
  | acquired =>
    simp only [acquire, hd]
    exact Or.inl trivial
  | bound =>
    cases found : (requestInput s.session).1 with
    | ok b =>
      rw [acquire_of_found hd found]
      exact Or.inr ⟨rfl, rfl, rfl⟩
    | error e =>
      rw [acquire_of_missed hd found]
      exact Or.inl hd

theorem stage_read (d : Device) (s : Shared τ) : (d.read s).2.1.lifecycle = d.lifecycle := by
  obtain ⟨t, hdevice⟩ := (d.read_keeps s).1
  rw [hdevice]

theorem stage_unacquire {d : Device} {s : Shared τ} {r : Device × Shared τ}
    (returned : d.unacquire s = some r) :
    (d.lifecycle ≠ .acquired ∧ r.1.lifecycle = d.lifecycle) ∨
      (d.lifecycle = .acquired ∧ r.1.lifecycle = .bound) := by
  rcases d.unacquire_cases s with h | ⟨idle, h⟩ | ⟨acquired, h⟩ <;> rw [h] at returned <;>
    cases returned
  · exact Or.inl ⟨idle, rfl⟩
  · exact Or.inr ⟨acquired, rfl⟩

theorem stage_close {d : Device} {s : Shared τ} {r : Device × Shared τ}
    (returned : d.close s = some r) : r.1.lifecycle = .closed := by
  rcases d.close_cases s with h | ⟨closed, h⟩ | ⟨_, h⟩ | ⟨_, h⟩ <;> rw [h] at returned <;>
    cases returned
  · exact closed
  · rfl
  · rfl

/-- What a closing leaves to the next one. -/
def leaves (d : Device) (s : Shared τ) : Shared τ :=
  ((d.close s).map Prod.snd).getD s

theorem leaves_of_close {d : Device} {s : Shared τ} {r : Device × Shared τ}
    (returned : d.close s = some r) : d.leaves s = r.2 := by
  rw [leaves, returned]
  rfl

end Device

/-! ## Stages of all devices of a manager -/

/-- The device is closed at its turn. -/
def Turn.Shuts (r : Turn τ) : Prop :=
  ∃ d' s', r.device.close r.shared = some (d', s') ∧ d'.lifecycle = .closed

namespace Manager

/-- Acquired in turn, a device in its place keeps its stage or was acquired at its own turn. -/
theorem stage_acquireEach (k n : Nat) (ds : List Device) (s : Shared τ) (i : Nat) :
    ((acquireEach ds s).2.1[i]?).map Device.lifecycle = (ds[i]?).map Device.lifecycle ∨
      ∃ r ∈ Turn.along (fun d s => (d.acquire s).2.2) k n ds s,
        r.place = .managed k (n + i) ∧ (r.device.acquire r.shared).1 = .ok () ∧
        (ds[i]?).map Device.lifecycle = some .bound ∧
        ((acquireEach ds s).2.1[i]?).map Device.lifecycle = some .acquired := by
  induction ds generalizing n s i with
  | nil => exact Or.inl rfl
  | cons d rest ih =>
    cases i with
    | zero =>
      rcases d.stage_acquire s with hsame | ⟨hbound, granted, acquired⟩
      · exact Or.inl (congrArg some hsame)
      · exact Or.inr ⟨⟨.managed k n, d, s⟩, List.mem_cons_self, rfl, granted,
          congrArg some hbound, congrArg some acquired⟩
    | succ i =>
      rcases ih (n + 1) (d.acquire s).2.2 i with hsame | ⟨r, hr, hplace, hrest⟩
      · exact Or.inl hsame
      · refine Or.inr ⟨r, List.mem_cons_of_mem _ hr, ?_, hrest⟩
        rw [hplace, Nat.add_assoc, Nat.add_comm 1 i]

/-- Closed in turn, every device is closed at its own turn. -/
theorem shuts_closeEach {ds : List Device} {s s' : Shared τ} (returned : closeEach ds s = some s')
    (k n : Nat) {i : Nat} {d : Device} (placed : ds[i]? = some d) :
    ∃ r ∈ Turn.along Device.leaves k n ds s,
      r.place = .managed k (n + i) ∧ r.device = d ∧ r.Shuts := by
  induction ds generalizing n s i with
  | nil => cases placed
  | cons e rest ih =>
    obtain ⟨r, hclose, hrest⟩ := Option.bind_eq_some_iff.mp returned
    cases i with
    | zero =>
      cases placed
      exact ⟨⟨.managed k n, d, s⟩, List.mem_cons_self, rfl, rfl, r.1, r.2, hclose,
        Device.stage_close hclose⟩
    | succ i =>
      obtain ⟨t, ht, hplace, hdevice, shuts⟩ := ih hrest (n + 1) placed
      refine ⟨t, List.mem_cons_of_mem _ ?_, ?_, hdevice, shuts⟩
      · rwa [Device.leaves_of_close hclose]
      · rw [hplace, Nat.add_assoc, Nat.add_comm 1 i]

end Manager

namespace Host

/-! ## Moves -/

/-- The turns in which devices are closed during an action. -/
def closings (h : Host τ) : Action → List (Turn τ)
  | .device target .close => h.turnOf target
  | .drop n => h.turnOf (.own n)
  | .manager k .shutdown | .manager k .drop => h.turnsOf Device.leaves k
  | _ => []

/-- What an action may do to the stage of the device in a place.  A device that was dropped or
shut down with its manager has no place afterwards. -/
inductive Moves (h : Host τ) (a : Action) (place : DeviceRef) :
    Option Lifecycle → Option Lifecycle → Prop where
  | rests (stage : Option Lifecycle) : Moves h a place stage stage
  | made : Moves h a place none (some .bound)
  /-- By its own acquisition, which succeeded. -/
  | acquired {r : Turn τ} (turn : r ∈ h.acquisitions a) (own : r.place = place)
      (granted : (r.device.acquire r.shared).1 = .ok ()) :
      Moves h a place (some .bound) (some .acquired)
  /-- By giving its own pad back. -/
  | unacquired (own : a = .device place .unacquire) :
      Moves h a place (some .acquired) (some .bound)
  /-- By being closed in its own place, for good. -/
  | closed {r : Turn τ} (turn : r ∈ h.closings a) (own : r.place = place) (shuts : r.Shuts)
      {after : Option Lifecycle} (last : after = some .closed ∨ after = none) :
      Moves h a place (some r.device.lifecycle) after

section Moves

variable {h : Host τ} {a : Action}

omit [Transport τ] in
theorem stage?_of_placed {target : DeviceRef} {d : Device} (placed : h.device? target = some d) :
    h.stage? target = some d.lifecycle := by
  rw [stage?, placed]
  rfl

omit [Transport τ] in
theorem stage?_setDevice_ne {target other : DeviceRef} {old d : Device} (s : Shared τ)
    (placed : h.device? target = some old) (hother : other ≠ target) :
    ({ h with shared := s }.setDevice d target).stage? other = h.stage? other := by
  rw [stage?, device?_setDevice (h := { h with shared := s }) placed, if_neg hother]
  cases other <;> rfl

/-- Another device in one place. -/
theorem moves_setDevice {target : DeviceRef} {old d : Device} (s : Shared τ)
    (placed : h.device? target = some old)
    (own : h.Moves a target (some old.lifecycle) (some d.lifecycle)) (place : DeviceRef) :
    h.Moves a place (h.stage? place)
      (({ h with shared := s }.setDevice d target).stage? place) := by
  by_cases hplace : place = target
  · subst hplace
    rw [stage?_setDevice s placed d, stage?, placed]
    exact own
  · rw [stage?_setDevice_ne s placed hplace]
    exact .rests _

/-- Other devices in the places of one manager. -/
theorem moves_setManager {k : Nat} {old m : Manager} (s : Shared τ)
    (placed : h.manager? k = some old)
    (own : ∀ n, h.Moves a (.managed k n) ((old.devices[n]?).map Device.lifecycle)
      ((m.devices[n]?).map Device.lifecycle)) (place : DeviceRef) :
    h.Moves a place (h.stage? place) (({ h with shared := s }.setManager m k).stage? place) := by
  cases place with
  | own n => exact .rests _
  | managed j n =>
    rw [stage?, stage?, device?_setManager (h := { h with shared := s }) placed]
    by_cases hjk : j = k
    · subst hjk
      rw [if_pos rfl, device?, placed]
      exact own n
    · rw [if_neg hjk]
      exact .rests _

omit [Transport τ] in
/-- A longer list differs only in the place behind the old one. -/
theorem getElem?_append_singleton {α : Type} (xs : List α) (x : α) (n : Nat) :
    (xs ++ [x])[n]? = xs[n]? ∨ (xs[n]? = none ∧ (xs ++ [x])[n]? = some x) := by
  by_cases hn : n < xs.length
  · exact Or.inl (List.getElem?_append_left hn)
  · have hnone : xs[n]? = none := List.getElem?_eq_none (Nat.le_of_not_lt hn)
    cases hnew : (xs ++ [x])[n]? with
    | none => exact Or.inl hnone.symm
    | some y =>
      rcases getElem?_of_append_singleton hnew with hold | rfl
      · exact Or.inl hold.symm
      · exact Or.inr ⟨hnone, rfl⟩

theorem moves_performOnDevice {target : DeviceRef} {d : Device}
    (placed : h.device? target = some d) (action : DeviceAction) (place : DeviceRef) :
    h.Moves (.device target action) place (h.stage? place)
      ((h.performOnDevice target d action).2.stage? place) := by
  have same : ∀ (s : Shared τ) (d' : Device), d'.lifecycle = d.lifecycle →
      h.Moves (.device target action) place (h.stage? place)
        (({ h with shared := s }.setDevice d' target).stage? place) :=
    fun s d' hd' => moves_setDevice s placed (hd' ▸ .rests _) place
  cases action with
  | acquire =>
    have hturn : ⟨target, d, h.shared⟩ ∈ h.acquisitions (.device target .acquire) :=
      mem_turnOf_of_placed placed
    rcases d.stage_acquire h.shared with hsame | ⟨hbound, granted, acquired⟩
    · exact same _ _ hsame
    · refine moves_setDevice _ placed ?_ place
      rw [hbound, acquired]
      exact .acquired hturn rfl granted
  | read => exact same _ _ (d.stage_read h.shared)
  | unacquire =>
    simp only [performOnDevice]
    split
    · next r hr =>
      rcases Device.stage_unacquire hr with ⟨_, hsame⟩ | ⟨acquired, bound⟩
      · exact same _ _ hsame
      · refine moves_setDevice _ placed ?_ place
        rw [acquired, bound]
        exact .unacquired rfl
    · exact .rests _
  | close =>
    have hturn : ⟨target, d, h.shared⟩ ∈ h.closings (.device target .close) :=
      mem_turnOf_of_placed placed
    simp only [performOnDevice]
    split
    · next r hr =>
      have closed := Device.stage_close hr
      exact moves_setDevice _ placed
        (.closed hturn rfl ⟨r.1, r.2, hr, closed⟩ (Or.inl (congrArg some closed))) place
    · exact .rests _
  | setCalibration filter c =>
    obtain ⟨cs, hdevice⟩ := d.setCalibration_frame filter c
    exact same h.shared _ (by rw [hdevice])
  | notifyOn => exact same h.shared { d with notify := some h.shared.signals.fresh.1 } rfl
  | notifyOff => exact same h.shared { d with notify := none } rfl
  | notifyReset =>
    simp only [performOnDevice]
    split <;> exact .rests _

/-- Forgetting a manager, or only its devices, after all of them were closed. -/
theorem moves_of_shutdown {k : Nat} {m : Manager} (placed : h.manager? k = some m)
    {r : Manager × Shared τ} (returned : m.shutdown h.shared = some r) (n : Nat)
    (closes : h.closings a = h.turnsOf Device.leaves k) :
    h.Moves a (.managed k n) ((m.devices[n]?).map Device.lifecycle) none := by
  obtain ⟨s', hclose, _⟩ := Option.map_eq_some_iff.mp returned
  cases hn : m.devices[n]? with
  | none => exact .rests none
  | some d =>
    obtain ⟨t, ht, hplace, rfl, shuts⟩ := Manager.shuts_closeEach hclose k 0 hn
    have hturn : t ∈ h.closings a := by
      rw [closes, turnsOf_of_placed placed]
      exact ht
    exact .closed hturn (by rw [hplace, Nat.zero_add]) shuts (Or.inr rfl)

theorem moves_performOnManager {k : Nat} {m : Manager} (placed : h.manager? k = some m)
    (action : ManagerAction) (place : DeviceRef) :
    h.Moves (.manager k action) place (h.stage? place)
      ((h.performOnManager k m action).2.stage? place) := by
  cases action with
  | discover => exact .rests _
  | openGamepad =>
    simp only [performOnManager, Manager.openGamepad]
    split
    · exact moves_setManager (Device.create h.shared m.settings.version).2 placed
        (fun n => .rests _) place
    · next new made =>
      refine moves_setManager (Device.create h.shared m.settings.version).2 placed
        (fun n => ?_) place
      rcases getElem?_append_singleton m.devices new n with hsame | ⟨hnone, hnew⟩
      · rw [hsame]
        exact .rests _
      · rw [hnone, hnew, Option.map_some, Device.lifecycle_create made]
        exact .made
  | acquireAll =>
    refine moves_setManager (m.acquireAll h.shared).2.2 placed (fun n => ?_) place
    rcases Manager.stage_acquireEach k 0 m.devices h.shared n with
      hsame | ⟨r, hr, hplace, granted, hbound, acquired⟩
    · show h.Moves _ _ _ (((Manager.acquireEach m.devices h.shared).2.1[n]?).map Device.lifecycle)
      rw [hsame]
      exact .rests _
    · have hturn : r ∈ h.acquisitions (.manager k .acquireAll) := by
        rw [acquisitions, turnsOf_of_placed placed]
        exact hr
      show h.Moves _ _ _ (((Manager.acquireEach m.devices h.shared).2.1[n]?).map Device.lifecycle)
      rw [hbound, acquired]
      exact .acquired hturn (by rw [hplace, Nat.zero_add]) granted
  | poll =>
    refine moves_setManager (m.poll h.shared).2.2 placed (fun n => ?_) place
    have hstages := congrArg (·[n]?) (Manager.stages_readEach m.devices h.shared)
    simp only [List.getElem?_map] at hstages
    show h.Moves _ _ _ (((Manager.readEach m.devices h.shared).2.1[n]?).map Device.lifecycle)
    rw [hstages]
    exact .rests _
  | drain => exact moves_setManager (m := m.drain.2) h.shared placed (fun n => .rests _) place
  | shutdown =>
    simp only [performOnManager]
    split
    · next r hr =>
      obtain ⟨_, _, rfl⟩ := Option.map_eq_some_iff.mp hr
      exact moves_setManager _ placed (fun n => moves_of_shutdown placed hr n rfl) place
    · exact .rests _
  | drop =>
    simp only [performOnManager]
    split
    · next r hr =>
      cases place with
      | own n => exact .rests _
      | managed j n =>
        by_cases hjk : j = k
        · subst hjk
          rw [stage?_dropManager, stage?, device?, placed]
          exact moves_of_shutdown placed hr n rfl
        · rw [h.stage?_dropManager_ne r.2 n hjk]
          exact .rests _
    · exact .rests _

/-- Nothing else moves a device. -/
theorem moves_perform (h : Host τ) (a : Action) (place : DeviceRef) :
    h.Moves a place (h.stage? place) ((h.perform a).2.stage? place) := by
  have rests : ∀ h' : Host τ, h'.devices = h.devices → h'.managers = h.managers →
      h.Moves a place (h.stage? place) (h'.stage? place) := by
    intro h' hdevices hmanagers
    rw [stage?, stage?, device?_of_places hdevices hmanagers]
    exact .rests _
  cases a with
  | connect | disconnect | acquire | release | receive | drawSequence => exact rests _ rfl rfl
  | discover | probe => exact rests _ rfl rfl
  | create version =>
    simp only [perform]
    split
    · next new made =>
      cases place with
      | managed k n => exact .rests _
      | own n =>
        rw [stage?, stage?, device?, device?]
        rcases getElem?_append_singleton h.devices (some new) n with hsame | ⟨hnone, hnew⟩
        · rw [hsame]
          exact .rests _
        · rw [hnone, hnew, Option.join_some, Option.map_some, Device.lifecycle_create made]
          exact .made
    · exact rests _ rfl rfl
  | drop n =>
    simp only [perform]
    split
    · exact .rests _
    · next d placed =>
      split
      · next r hr =>
        have hturn : ⟨.own n, d, h.shared⟩ ∈ h.closings (.drop n) := mem_turnOf_of_placed placed
        by_cases hplace : place = .own n
        · subst hplace
          rw [stage?_dropDevice, stage?_of_placed placed]
          exact .closed hturn rfl ⟨r.1, r.2, hr, Device.stage_close hr⟩ (Or.inr rfl)
        · rw [h.stage?_dropDevice_ne r.2 hplace]
          exact .rests _
      · exact .rests _
  | device target action =>
    cases hd : h.device? target with
    | none =>
      simp only [perform, hd]
      exact .rests _
    | some d =>
      simp only [perform, hd]
      exact moves_performOnDevice hd action place
  | manage settings =>
    cases place with
    | own n => exact .rests _
    | managed k n =>
      -- the new manager has no devices
      rw [stage?, stage?, device?, device?, manager?, manager?, perform]
      rcases getElem?_append_singleton h.managers (some (.new settings)) k with
        hsame | ⟨hnone, hnew⟩
      · rw [hsame]
        exact .rests _
      · rw [hnone, hnew]
        exact .rests _
  | manager k action =>
    cases hm : h.manager? k with
    | none =>
      rw [perform_of_absent_manager hm]
      exact .rests _
    | some m =>
      simp only [perform, hm]
      exact moves_performOnManager hm action place

end Moves

end Host

end RemotePad
