import RemotePad.Proofs.Host.Outcomes
import RemotePad.Proofs.Host.Turns

/-!
# Laws of a session

Whatever a host does comes down to a few operations on its session: it searches for a pad,
devices are acquired or read at their turns, the pad is given back, and the host may use the
session itself, past all devices.

* `Notes` says what is noted of each operation, and `Host.noted` what is noted of an action.
* `Law`: a relation between sessions and what was noted on the way from one to the other,
  which holds of each operation and of one operation after the other.
* `Law.perform` and `Law.run`: a law holds of every action and every run.
-/

namespace RemotePad

variable {τ α : Type}

/-! ## Notes -/

/-- What is noted of the operations on a session.  Nothing is noted of giving the pad back. -/
structure Notes (τ α : Type) where
  direct : Session τ → Action → List α := fun _ _ => []
  search : Session τ → List α := fun _ => []
  acquire : Turn τ → List α := fun _ => []
  read : Turn τ → List α := fun _ => []

namespace Host

/-- The session that an action searches for a pad, if it does. -/
def searches (h : Host τ) : Action → List (Session τ)
  | .discover _ | .probe _ | .create _ => [h.shared.session]
  | .manager k .discover | .manager k .openGamepad =>
    (h.manager? k).toList.map fun _ => h.shared.session
  | _ => []

variable [Transport τ]

/-- What is noted of an action. -/
def noted (notes : Notes τ α) (h : Host τ) (a : Action) : List α :=
  (if a.isDirect then notes.direct h.shared.session a else []) ++
    (h.searches a).flatMap notes.search ++ (h.acquisitions a).flatMap notes.acquire ++
    (h.readings a).flatMap notes.read

/-- Of a search, nothing else is noted. -/
theorem noted_of_searches {notes : Notes τ α} {h : Host τ} {a : Action} {s : Session τ}
    (searched : h.searches a = [s]) : h.noted notes a = notes.search s := by
  have silent : a.isDirect = false ∧ h.acquisitions a = [] ∧ h.readings a = [] := by
    cases a with
    | discover | probe | create => exact ⟨rfl, rfl, rfl⟩
    | manager k action =>
      cases action with
      | discover | openGamepad => exact ⟨rfl, rfl, rfl⟩
      | _ => cases searched
    | _ => cases searched
  simp [noted, searched, silent]

/-- Of what the host does past all devices, nothing else is noted. -/
theorem noted_of_isDirect {notes : Notes τ α} {h : Host τ} {a : Action}
    (direct : a.isDirect = true) :
    h.noted notes a = notes.direct h.shared.session a := by
  have silent : h.searches a = [] ∧ h.acquisitions a = [] ∧ h.readings a = [] := by
    cases a with
    | connect | disconnect | acquire | release | receive | drawSequence => exact ⟨rfl, rfl, rfl⟩
    | _ => cases direct
  simp [noted, direct, silent]

theorem noted_acquire (notes : Notes τ α) (h : Host τ) (target : DeviceRef) :
    h.noted notes (.device target .acquire) = (h.turnOf target).flatMap notes.acquire := by
  simp [noted, Action.isDirect, searches, acquisitions, readings]

theorem noted_read (notes : Notes τ α) (h : Host τ) (target : DeviceRef) :
    h.noted notes (.device target .read) = (h.turnOf target).flatMap notes.read := by
  simp [noted, Action.isDirect, searches, acquisitions, readings]

theorem noted_acquireAll (notes : Notes τ α) (h : Host τ) (k : Nat) :
    h.noted notes (.manager k .acquireAll) =
      (h.turnsOf (fun d s => (d.acquire s).2.2) k).flatMap notes.acquire := by
  simp [noted, Action.isDirect, searches, acquisitions, readings]

theorem noted_poll (notes : Notes τ α) (h : Host τ) (k : Nat) :
    h.noted notes (.manager k .poll) =
      (h.turnsOf (fun d s => (d.read s).2.2) k).flatMap notes.read := by
  simp [noted, Action.isDirect, searches, acquisitions, readings]

/-- Nothing is noted where no device stands. -/
theorem noted_of_absent_device {notes : Notes τ α} {h : Host τ} {target : DeviceRef}
    (absent : h.device? target = none) (action : DeviceAction) :
    h.noted notes (.device target action) = [] := by
  have hturn := turnOf_of_absent absent
  cases action with
  | acquire => rw [noted_acquire, hturn, List.flatMap_nil]
  | read => rw [noted_read, hturn, List.flatMap_nil]
  | _ => rfl

theorem noted_of_absent_manager {notes : Notes τ α} {h : Host τ} {k : Nat}
    (absent : h.manager? k = none) (action : ManagerAction) :
    h.noted notes (.manager k action) = [] := by
  cases action with
  | acquireAll => rw [noted_acquireAll, turnsOf_of_absent absent, List.flatMap_nil]
  | poll => rw [noted_poll, turnsOf_of_absent absent, List.flatMap_nil]
  | discover | openGamepad =>
    simp [noted, Action.isDirect, searches, acquisitions, readings, absent]
  | _ => rfl

/-- What is noted of a run. -/
def chronicle (notes : Notes τ α) (h : Host τ) : List Action → List α
  | [] => []
  | a :: rest => h.noted notes a ++ chronicle notes (h.perform a).2 rest

theorem chronicle_append (notes : Notes τ α) (h : Host τ) (as bs : List Action) :
    h.chronicle notes (as ++ bs) =
      h.chronicle notes as ++ (h.run as).2.chronicle notes bs := by
  induction as generalizing h with
  | nil => rfl
  | cons a rest ih =>
    rw [List.cons_append, chronicle, ih, chronicle, List.append_assoc]
    rfl

theorem chronicle_snoc (notes : Notes τ α) (h : Host τ) (as : List Action) (a : Action) :
    h.chronicle notes (as ++ [a]) = h.chronicle notes as ++ (h.run as).2.noted notes a := by
  rw [chronicle_append, chronicle, chronicle, List.append_nil]

end Host

/-! ## Laws -/

variable [Transport τ]

/-- A relation between sessions and the notes made between them that every operation obeys.
Of what the host does past all devices, only what is allowed has to. -/
structure Law (allowed : Action → Prop) (notes : Notes τ α)
    (R : Session τ → List α → Session τ → Prop) : Prop where
  refl : ∀ s, R s [] s
  trans : ∀ {s s' s'' : Session τ} {xs ys : List α}, R s xs s' → R s' ys s'' → R s (xs ++ ys) s''
  direct : ∀ (h : Host τ) (a : Action), a.isDirect = true → allowed a →
    R h.shared.session (notes.direct h.shared.session a) (h.perform a).2.shared.session
  search : ∀ (s : Session τ) (version : UInt32), R s (notes.search s) (Device.discover s version).2
  acquire : ∀ r : Turn τ,
    R r.shared.session (notes.acquire r) (r.device.acquire r.shared).2.2.session
  read : ∀ r : Turn τ, R r.shared.session (notes.read r) (r.device.read r.shared).2.2.session
  giveBack : ∀ s, R s [] s.release.disconnect

namespace Law

variable {allowed : Action → Prop} {notes : Notes τ α}
  {R : Session τ → List α → Session τ → Prop}

/-! ### Devices -/

theorem unacquire (law : Law allowed notes R) {d : Device} {s : Shared τ}
    {r : Device × Shared τ} (returned : d.unacquire s = some r) : R s.session [] r.2.session := by
  rcases d.unacquire_cases s with h | ⟨_, h⟩ | ⟨_, h⟩ <;> rw [h] at returned <;> cases returned
  · exact law.refl s.session
  · exact law.giveBack s.session

theorem close (law : Law allowed notes R) {d : Device} {s : Shared τ}
    {r : Device × Shared τ} (returned : d.close s = some r) : R s.session [] r.2.session := by
  rcases d.close_cases s with h | ⟨_, h⟩ | ⟨_, h⟩ | ⟨_, h⟩ <;> rw [h] at returned <;>
    cases returned
  · exact law.refl s.session
  · exact law.refl s.session
  · exact law.giveBack s.session

theorem probe (law : Law allowed notes R) (s : Session τ) (version : UInt32) :
    R s (notes.search s) (Device.probe s version).2 := by
  rw [(Device.probe_discover s version).1]
  exact law.search s version

theorem create (law : Law allowed notes R) (s : Shared τ) (version : UInt32) :
    R s.session (notes.search s.session) (Device.create s version).2.session := by
  rw [Device.session_create]
  exact law.search s.session version

/-! ### Devices of a manager -/

theorem acquireEach (law : Law allowed notes R) (k n : Nat) (ds : List Device) (s : Shared τ) :
    R s.session ((Turn.along (fun d s => (d.acquire s).2.2) k n ds s).flatMap notes.acquire)
      (Manager.acquireEach ds s).2.2.session := by
  induction ds generalizing n s with
  | nil => exact law.refl s.session
  | cons d rest ih =>
    exact law.trans (law.acquire ⟨.managed k n, d, s⟩) (ih (n + 1) (d.acquire s).2.2)

theorem readEach (law : Law allowed notes R) (k n : Nat) (ds : List Device) (s : Shared τ) :
    R s.session ((Turn.along (fun d s => (d.read s).2.2) k n ds s).flatMap notes.read)
      (Manager.readEach ds s).2.2.session := by
  induction ds generalizing n s with
  | nil => exact law.refl s.session
  | cons d rest ih =>
    exact law.trans (law.read ⟨.managed k n, d, s⟩) (ih (n + 1) (d.read s).2.2)

theorem closeEach (law : Law allowed notes R) {ds : List Device} {s s' : Shared τ}
    (returned : Manager.closeEach ds s = some s') : R s.session [] s'.session := by
  induction ds generalizing s with
  | nil =>
    cases returned
    exact law.refl _
  | cons d rest ih =>
    obtain ⟨r, hclose, hrest⟩ := Option.bind_eq_some_iff.mp returned
    exact law.trans (law.close hclose) (ih hrest)

theorem shutdown (law : Law allowed notes R) {m : Manager} {s : Shared τ}
    {r : Manager × Shared τ} (returned : m.shutdown s = some r) : R s.session [] r.2.session := by
  obtain ⟨s', hclose, rfl⟩ := Option.map_eq_some_iff.mp returned
  exact law.closeEach hclose

/-! ### Actions -/

section Actions

variable {h : Host τ}

theorem performOnDevice (law : Law allowed notes R) {target : DeviceRef} {d : Device}
    (placed : h.device? target = some d) (action : DeviceAction) :
    R h.shared.session (h.noted notes (.device target action))
      (h.performOnDevice target d action).2.shared.session := by
  cases action with
  | acquire =>
    have hacquire := law.acquire ⟨target, d, h.shared⟩
    rw [Host.noted_acquire, Host.turnOf_of_placed placed, List.flatMap_singleton]
    simp only [Host.performOnDevice, Host.shared_setDevice]
    exact hacquire
  | read =>
    have hread := law.read ⟨target, d, h.shared⟩
    rw [Host.noted_read, Host.turnOf_of_placed placed, List.flatMap_singleton]
    simp only [Host.performOnDevice, Host.shared_setDevice]
    exact hread
  | unacquire =>
    simp only [Host.performOnDevice]
    split
    · next r hr =>
      rw [Host.shared_setDevice]
      exact law.unacquire hr
    · exact law.refl _
  | close =>
    simp only [Host.performOnDevice]
    split
    · next r hr =>
      rw [Host.shared_setDevice]
      exact law.close hr
    · exact law.refl _
  | setCalibration filter c =>
    simp only [Host.performOnDevice, Host.shared_setDevice]
    exact law.refl _
  | notifyOn =>
    simp only [Host.performOnDevice, Host.shared_setDevice]
    exact law.refl _
  | notifyOff =>
    simp only [Host.performOnDevice, Host.shared_setDevice]
    exact law.refl _
  | notifyReset =>
    simp only [Host.performOnDevice]
    split <;> exact law.refl _

theorem performOnManager (law : Law allowed notes R) {k : Nat} {m : Manager}
    (placed : h.manager? k = some m) (action : ManagerAction) :
    R h.shared.session (h.noted notes (.manager k action))
      (h.performOnManager k m action).2.shared.session := by
  cases action with
  | discover =>
    have hsearches : h.searches (.manager k .discover) = [h.shared.session] := by
      simp [Host.searches, placed]
    rw [Host.noted_of_searches hsearches]
    exact law.probe h.shared.session m.settings.version
  | openGamepad =>
    have hsearches : h.searches (.manager k .openGamepad) = [h.shared.session] := by
      simp [Host.searches, placed]
    have hcreate := law.create h.shared m.settings.version
    rw [Host.noted_of_searches hsearches]
    simp only [Host.performOnManager, Manager.openGamepad]
    split <;> exact hcreate
  | acquireAll =>
    rw [Host.noted_acquireAll, Host.turnsOf_of_placed placed]
    exact law.acquireEach k 0 m.devices h.shared
  | poll =>
    rw [Host.noted_poll, Host.turnsOf_of_placed placed]
    exact law.readEach k 0 m.devices h.shared
  | drain => exact law.refl _
  | shutdown =>
    simp only [Host.performOnManager]
    split
    · next r hr => exact law.shutdown hr
    · exact law.refl _
  | drop =>
    simp only [Host.performOnManager]
    split
    · next r hr => exact law.shutdown hr
    · exact law.refl _

theorem drop (law : Law allowed notes R) (place : Nat) :
    R h.shared.session (h.noted notes (.drop place)) (h.perform (.drop place)).2.shared.session := by
  simp only [Host.perform]
  split
  · exact law.refl _
  · split
    · next r hr => exact law.close hr
    · exact law.refl _

/-- A law holds of every action. -/
theorem perform (law : Law allowed notes R) (h : Host τ) {a : Action}
    (ok : a.isDirect = true → allowed a) :
    R h.shared.session (h.noted notes a) (h.perform a).2.shared.session := by
  have direct : a.isDirect = true →
      R h.shared.session (h.noted notes a) (h.perform a).2.shared.session := by
    intro hdirect
    rw [Host.noted_of_isDirect hdirect]
    exact law.direct h a hdirect (ok hdirect)
  cases a with
  | connect | disconnect | acquire | release | receive | drawSequence => exact direct rfl
  | discover version =>
    rw [Host.noted_of_searches rfl]
    exact law.search h.shared.session version
  | probe version =>
    rw [Host.noted_of_searches rfl]
    exact law.probe h.shared.session version
  | create version =>
    have hcreate := law.create h.shared version
    rw [Host.noted_of_searches rfl]
    simp only [Host.perform]
    split <;> exact hcreate
  | drop place => exact law.drop place
  | device target action =>
    cases hd : h.device? target with
    | none =>
      simp only [Host.perform, hd, Host.noted_of_absent_device hd]
      exact law.refl _
    | some d =>
      simp only [Host.perform, hd]
      exact law.performOnDevice hd action
  | manage settings => exact law.refl _
  | manager k action =>
    cases hm : h.manager? k with
    | none =>
      rw [Host.noted_of_absent_manager hm]
      cases action <;> simp only [Host.perform, hm] <;> exact law.refl _
    | some m =>
      simp only [Host.perform, hm]
      exact law.performOnManager hm action

/-- A law holds of every run. -/
theorem run (law : Law allowed notes R) (h : Host τ) {acts : List Action}
    (ok : ∀ a ∈ acts, a.isDirect = true → allowed a) :
    R h.shared.session (h.chronicle notes acts) (h.run acts).2.shared.session := by
  induction acts generalizing h with
  | nil => exact law.refl _
  | cons a rest ih =>
    have hfirst := law.perform h (ok a List.mem_cons_self)
    exact law.trans hfirst (ih (h.perform a).2 fun b hb => ok b (List.mem_cons_of_mem a hb))

end Actions

end Law

end RemotePad
