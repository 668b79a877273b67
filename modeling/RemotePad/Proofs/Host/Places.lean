import RemotePad.Host

/-!
# Places of devices in a host

Which device stands where after a device or a manager was put into a place, and how runs
of actions are put together.

* `Host.stage?` is the stage of life of the device in a place.  What an action does to the
  session is one matter, what it does to the stages another.
* `Host.Keeps` relates a host to one in which no device newly has a property, and
  `Host.KeepsIdle` to one in which no device is newly acquired.
-/

namespace RemotePad

namespace Host

variable {τ : Type}

/-- A host that has done nothing yet. -/
def fresh (link : τ) : Host τ :=
  { shared := { session := { link := link } } }

/-! ## Stages -/

/-- How far the device in a place has come in its life. -/
def stage? (h : Host τ) (target : DeviceRef) : Option Lifecycle :=
  (h.device? target).map Device.lifecycle

theorem stage?_eq_some {h : Host τ} {target : DeviceRef} {stage : Lifecycle} :
    h.stage? target = some stage ↔
      ∃ d, h.device? target = some d ∧ d.lifecycle = stage := by
  simp [stage?]

/-- Which device stands where depends on the devices and the managers alone. -/
theorem device?_of_places {h h' : Host τ} (hdevices : h'.devices = h.devices)
    (hmanagers : h'.managers = h.managers) (target : DeviceRef) :
    h'.device? target = h.device? target := by
  cases target with
  | own n => simp only [device?, hdevices]
  | managed k n => simp only [device?, manager?, hmanagers]

/-- Every device that is acquired in `h'` is acquired in `h`. -/
def KeepsIdle (h h' : Host τ) : Prop :=
  ∀ target, h'.stage? target = some .acquired → h.stage? target = some .acquired

theorem keepsIdle_refl (h : Host τ) : h.KeepsIdle h := fun _ hs => hs

/-! ## Properties of devices -/

/-- Where a device of `h'` has the property, the one in the same place of `h` has it. -/
def Keeps (P : Device → Prop) (h h' : Host τ) : Prop :=
  ∀ target d', h'.device? target = some d' → P d' → ∃ d, h.device? target = some d ∧ P d

theorem keepsIdle_iff_keeps {h h' : Host τ} :
    h.KeepsIdle h' ↔ h.Keeps (fun d => d.lifecycle = .acquired) h' := by
  simp only [KeepsIdle, Keeps, stage?_eq_some, forall_exists_index, and_imp]

section Keeps

variable {P : Device → Prop}

theorem keeps_refl (h : Host τ) : h.Keeps P h := fun _ d hd hP => ⟨d, hd, hP⟩

/-- The session and the flags have no part in it. -/
theorem keeps_of_places {h h' : Host τ} (hdevices : h'.devices = h.devices)
    (hmanagers : h'.managers = h.managers) : h.Keeps P h' := by
  intro target d hd hP
  rw [device?_of_places hdevices hmanagers] at hd
  exact ⟨d, hd, hP⟩

end Keeps

/-- The session and the flags have no part in the stages. -/
theorem keepsIdle_of_places {h h' : Host τ} (hdevices : h'.devices = h.devices)
    (hmanagers : h'.managers = h.managers) : h.KeepsIdle h' :=
  keepsIdle_iff_keeps.mpr (keeps_of_places hdevices hmanagers)

/-! ## Lists with gaps -/

theorem lt_length_of_join {α : Type} {xs : List (Option α)} {n : Nat} {a : α}
    (h : xs[n]?.join = some a) : n < xs.length := by
  by_cases hlt : n < xs.length
  · exact hlt
  · simp [List.getElem?_eq_none (Nat.le_of_not_lt hlt)] at h

/-- A new gap hides one entry and shows none. -/
theorem join_of_set_none {α : Type} {xs : List (Option α)} {n j : Nat} {a : α}
    (h : (xs.set n none)[j]?.join = some a) : xs[j]?.join = some a := by
  by_cases hnj : n = j
  · subst hnj
    rw [List.getElem?_set_self'] at h
    cases hx : xs[n]? <;> simp [hx] at h
  · rwa [List.getElem?_set_ne hnj] at h

/-- Every entry of a longer list is an old one or the new one. -/
theorem getElem?_of_append_singleton {α : Type} {xs : List α} {n : Nat} {x a : α}
    (h : (xs ++ [x])[n]? = some a) : xs[n]? = some a ∨ a = x := by
  by_cases hn : n < xs.length
  · exact Or.inl (by rwa [List.getElem?_append_left hn] at h)
  · rw [List.getElem?_append_right (Nat.le_of_not_lt hn)] at h
    exact Or.inr (List.mem_singleton.mp (List.mem_of_getElem? h))

theorem join_of_append_some {α : Type} {xs : List (Option α)} {n : Nat} {x a : α}
    (h : (xs ++ [some x])[n]?.join = some a) : xs[n]?.join = some a ∨ a = x := by
  rw [Option.join_eq_some_iff] at h ⊢
  exact (getElem?_of_append_singleton h).imp_right Option.some.inj

/-! ## Putting devices and managers into places -/

theorem shared_setDevice (h : Host τ) (d : Device) (target : DeviceRef) :
    (h.setDevice d target).shared = h.shared := by
  cases target with
  | own n => rfl
  | managed k n =>
    simp only [setDevice]
    split <;> rfl

theorem manager?_setManager {h : Host τ} {k : Nat} {old : Manager}
    (placed : h.manager? k = some old) (m : Manager) (j : Nat) :
    (h.setManager m k).manager? j = if j = k then some m else h.manager? j := by
  have hlt : k < h.managers.length := lt_length_of_join placed
  by_cases hjk : j = k
  · subst hjk
    simp [manager?, setManager, hlt]
  · simp [manager?, setManager, hjk, List.getElem?_set_ne (Ne.symm hjk)]

theorem device?_setManager {h : Host τ} {k : Nat} {old : Manager}
    (placed : h.manager? k = some old) (m : Manager) (j n : Nat) :
    (h.setManager m k).device? (.managed j n) =
      if j = k then m.devices[n]? else h.device? (.managed j n) := by
  rw [device?, manager?_setManager placed]
  split <;> rfl

/-- Putting a device where it stands changes nothing. -/
theorem setDevice_self {h : Host τ} {place : DeviceRef} {d : Device}
    (placed : h.device? place = some d) : h.setDevice d place = h := by
  cases place with
  | own n =>
    have hrow : h.devices[n]? = some (some d) := Option.join_eq_some_iff.mp placed
    obtain ⟨hlt, hget⟩ := List.getElem?_eq_some_iff.mp hrow
    rw [setDevice, ← hget, List.set_getElem_self]
  | managed k n =>
    obtain ⟨m, hm, hd⟩ := Option.bind_eq_some_iff.mp placed
    obtain ⟨hlt, hget⟩ := List.getElem?_eq_some_iff.mp hd
    have hrow : h.managers[k]? = some (some m) := Option.join_eq_some_iff.mp hm
    obtain ⟨hklt, hkget⟩ := List.getElem?_eq_some_iff.mp hrow
    rw [setDevice, hm]
    simp only [setManager]
    rw [← hget, List.set_getElem_self, ← hkget, List.set_getElem_self]

/-- Only the place itself has another device afterwards. -/
theorem device?_setDevice {h : Host τ} {target : DeviceRef} {old : Device}
    (placed : h.device? target = some old) (d : Device) (other : DeviceRef) :
    (h.setDevice d target).device? other = if other = target then some d else h.device? other := by
  cases target with
  | own n =>
    have hlt : n < h.devices.length := lt_length_of_join placed
    cases other with
    | own j =>
      by_cases hjn : j = n
      · subst hjn
        simp [device?, setDevice, hlt]
      · simp [device?, setDevice, hjn, List.getElem?_set_ne (Ne.symm hjn)]
    | managed j i => rfl
  | managed k n =>
    cases hm : h.manager? k with
    | none => simp [device?, hm] at placed
    | some m =>
      have hn : m.devices[n]? = some old := by simpa [device?, hm] using placed
      have hlt : n < m.devices.length := (List.getElem?_eq_some_iff.mp hn).1
      simp only [setDevice, hm]
      cases other with
      | own j => rfl
      | managed j i =>
        rw [device?_setManager hm]
        by_cases hjk : j = k
        · subst hjk
          by_cases hin : i = n
          · subst hin
            simp [hlt]
          · simp [hin, List.getElem?_set_ne (Ne.symm hin), device?, hm]
        · simp [hjk]

/-- The stage of a device that was just put into its place. -/
theorem stage?_setDevice {h : Host τ} {target : DeviceRef} {old : Device} (s : Shared τ)
    (placed : h.device? target = some old) (d : Device) :
    ({ h with shared := s }.setDevice d target).stage? target = some d.lifecycle := by
  rw [stage?, device?_setDevice (h := { h with shared := s }) placed, if_pos rfl]
  rfl

theorem stage?_setManager {h : Host τ} {k : Nat} {old : Manager} (s : Shared τ)
    (placed : h.manager? k = some old) (m : Manager) (n : Nat) :
    ({ h with shared := s }.setManager m k).stage? (.managed k n) =
      (m.devices[n]?).map Device.lifecycle := by
  rw [stage?, device?_setManager (h := { h with shared := s }) placed, if_pos rfl]

/-- A device that does not newly have the property gives it to no other. -/
theorem keeps_setDevice {P : Device → Prop} {h : Host τ} {target : DeviceRef} {old d : Device}
    (placed : h.device? target = some old) (keep : P d → P old) :
    h.Keeps P (h.setDevice d target) := by
  intro other d' hd hP
  rw [device?_setDevice placed] at hd
  by_cases ho : other = target
  · subst ho
    rw [if_pos rfl] at hd
    cases hd
    exact ⟨old, placed, keep hP⟩
  · rw [if_neg ho] at hd
    exact ⟨d', hd, hP⟩

/-- The same of the devices of a manager. -/
theorem keeps_setManager {P : Device → Prop} {h : Host τ} {k : Nat} {old m : Manager}
    (placed : h.manager? k = some old)
    (keep : ∀ (n : Nat) (d' : Device), m.devices[n]? = some d' → P d' →
      ∃ d, old.devices[n]? = some d ∧ P d) :
    h.Keeps P (h.setManager m k) := by
  intro target d' hd hP
  cases target with
  | own n => exact ⟨d', hd, hP⟩
  | managed j n =>
    rw [device?_setManager placed] at hd
    by_cases hjk : j = k
    · subst hjk
      rw [if_pos rfl] at hd
      obtain ⟨d, hn, hPd⟩ := keep n d' hd hP
      exact ⟨d, Option.bind_eq_some_iff.mpr ⟨old, placed, hn⟩, hPd⟩
    · rw [if_neg hjk] at hd
      exact ⟨d', hd, hP⟩

theorem keepsIdle_setDevice {h : Host τ} {target : DeviceRef} {old d : Device}
    (placed : h.device? target = some old)
    (idle : d.lifecycle = .acquired → old.lifecycle = .acquired) :
    h.KeepsIdle (h.setDevice d target) :=
  keepsIdle_iff_keeps.mpr (keeps_setDevice placed idle)

theorem keepsIdle_setManager {h : Host τ} {k : Nat} {old m : Manager}
    (placed : h.manager? k = some old)
    (idle : ∀ n : Nat, (m.devices[n]?).map Device.lifecycle = some .acquired →
      (old.devices[n]?).map Device.lifecycle = some .acquired) :
    h.KeepsIdle (h.setManager m k) := by
  refine keepsIdle_iff_keeps.mpr (keeps_setManager placed fun n d' hn acquired => ?_)
  exact Option.map_eq_some_iff.mp (idle n (Option.map_eq_some_iff.mpr ⟨d', hn, acquired⟩))

/-! ## Dropping and making -/

theorem stage?_dropDevice (h : Host τ) (s : Shared τ) (place : Nat) :
    ({ h with shared := s, devices := h.devices.set place none } : Host τ).stage? (.own place) =
      none := by
  rw [stage?, device?, List.getElem?_set_self']
  cases h.devices[place]? <;> rfl

theorem stage?_dropManager (h : Host τ) (s : Shared τ) (place n : Nat) :
    ({ h with shared := s, managers := h.managers.set place none } : Host τ).stage?
      (.managed place n) = none := by
  rw [stage?, device?, manager?, List.getElem?_set_self']
  cases h.managers[place]? <;> rfl

/-- Nothing else is dropped with it. -/
theorem stage?_dropDevice_ne (h : Host τ) (s : Shared τ) {place : Nat} {other : DeviceRef}
    (hother : other ≠ .own place) :
    ({ h with shared := s, devices := h.devices.set place none } : Host τ).stage? other =
      h.stage? other := by
  cases other with
  | managed k n => rfl
  | own n =>
    have hne : place ≠ n := fun hsame => hother (hsame ▸ rfl)
    rw [stage?, stage?, device?, device?, List.getElem?_set_ne hne]

theorem stage?_dropManager_ne (h : Host τ) (s : Shared τ) {place other : Nat} (n : Nat)
    (hother : other ≠ place) :
    ({ h with shared := s, managers := h.managers.set place none } : Host τ).stage?
      (.managed other n) = h.stage? (.managed other n) := by
  rw [stage?, stage?, device?, device?, manager?, manager?, List.getElem?_set_ne hother.symm]

section Keeps

variable {P : Device → Prop}

theorem keeps_dropDevice (h : Host τ) (s : Shared τ) (place : Nat) :
    h.Keeps P { h with shared := s, devices := h.devices.set place none } := by
  intro target d hd hP
  cases target with
  | own n => exact ⟨d, join_of_set_none hd, hP⟩
  | managed k n => exact ⟨d, hd, hP⟩

theorem keeps_dropManager (h : Host τ) (s : Shared τ) (place : Nat) :
    h.Keeps P { h with shared := s, managers := h.managers.set place none } := by
  intro target d hd hP
  cases target with
  | own n => exact ⟨d, hd, hP⟩
  | managed k n =>
    obtain ⟨m, hm, hn⟩ := Option.bind_eq_some_iff.mp hd
    exact ⟨d, Option.bind_eq_some_iff.mpr ⟨m, join_of_set_none hm, hn⟩, hP⟩

/-- A new manager has no devices. -/
theorem keeps_manage (h : Host τ) (settings : Settings) :
    h.Keeps P { h with managers := h.managers ++ [some (.new settings)] } := by
  intro target d hd hP
  cases target with
  | own n => exact ⟨d, hd, hP⟩
  | managed k n =>
    obtain ⟨m, hm, hn⟩ := Option.bind_eq_some_iff.mp hd
    rcases join_of_append_some hm with hold | rfl
    · exact ⟨d, Option.bind_eq_some_iff.mpr ⟨m, hold, hn⟩, hP⟩
    · cases hn

/-- A new device without the property. -/
theorem keeps_create (h : Host τ) (s : Shared τ) {new : Device} (lacks : ¬ P new) :
    h.Keeps P { h with shared := s, devices := h.devices ++ [some new] } := by
  intro target d hd hP
  cases target with
  | own n =>
    rcases join_of_append_some hd with hold | rfl
    · exact ⟨d, hold, hP⟩
    · exact absurd hP lacks
  | managed k n => exact ⟨d, hd, hP⟩

end Keeps

theorem keepsIdle_dropDevice (h : Host τ) (s : Shared τ) (place : Nat) :
    h.KeepsIdle { h with shared := s, devices := h.devices.set place none } :=
  keepsIdle_iff_keeps.mpr (h.keeps_dropDevice s place)

theorem keepsIdle_dropManager (h : Host τ) (s : Shared τ) (place : Nat) :
    h.KeepsIdle { h with shared := s, managers := h.managers.set place none } :=
  keepsIdle_iff_keeps.mpr (h.keeps_dropManager s place)

theorem keepsIdle_manage (h : Host τ) (settings : Settings) :
    h.KeepsIdle { h with managers := h.managers ++ [some (.new settings)] } :=
  keepsIdle_iff_keeps.mpr (h.keeps_manage settings)

/-! ## Runs -/

section Runs

variable [Transport τ]

/-- Without the manager, an action for it does nothing. -/
theorem perform_of_absent_manager {h : Host τ} {k : Nat} (absent : h.manager? k = none)
    (action : ManagerAction) : (h.perform (.manager k action)).2 = h := by
  unfold perform
  dsimp only
  rw [absent]
  cases action <;> rfl

theorem run_append (h : Host τ) (as bs : List Action) :
    (h.run (as ++ bs)).2 = ((h.run as).2.run bs).2 := by
  induction as generalizing h with
  | nil => rfl
  | cons a rest ih => exact ih _

theorem run_snoc (h : Host τ) (as : List Action) (a : Action) :
    (h.run (as ++ [a])).2 = ((h.run as).2.perform a).2 :=
  h.run_append as [a]

end Runs

end Host

end RemotePad
