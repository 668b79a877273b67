import RemotePad.Proofs.Host.Laws
import RemotePad.Proofs.Session.Answers

/-!
# Pads that were granted

Whenever the server answers a request with a pad, the whole session is bound to that pad,
whichever device asked for it, or none.

* `Host.grants` and `Host.history`: the pads granted during an action and a run, each with
  the device that it was granted to.  `LatestTo` picks the last one granted to a device.
* `follows_law`: what is bound after every operation is the last pad granted.
* `Host.earned_perform`: a device that is acquired after an action has the layout of the last
  pad granted to it, and without one it had the layout before.
-/

namespace RemotePad

variable {τ : Type} [Transport τ]

/-! ## Grants -/

/-- A pad that the server answered with. -/
structure Grant where
  /-- The device that was to be acquired, if the request was made for one. -/
  holder : Option DeviceRef
  binding : Binding
  deriving Repr, DecidableEq

/-- The pad granted at a turn of acquiring. -/
def Turn.grants (r : Turn τ) : List Grant :=
  (r.device.granted? r.shared).toList.map (Grant.mk (some r.place))

/-- Pads that are granted to no device: those that a search finds, and those that the host
is answered with past all devices. -/
def grantNotes : Notes τ Grant where
  direct := fun s a =>
    match a with
    | .acquire notify wantName => (s.acquire notify wantName).1.toOption.toList.map (.mk none)
    | _ => []
  search := fun s => s.sighted?.toList.map (.mk none)
  acquire := Turn.grants

namespace Host

/-- The pads granted during an action in order. -/
def grants (h : Host τ) (a : Action) : List Grant :=
  h.noted grantNotes a

/-- The pads granted during a run in order. -/
def history (h : Host τ) (acts : List Action) : List Grant :=
  h.chronicle grantNotes acts

end Host

/-- `own` is the last pad granted to the device in a place, and `since` is what was granted
afterwards.  No device is acquired when it comes to its place, so what was granted to an earlier
one there does not count for an acquired device. -/
def LatestTo (log : List Grant) (place : DeviceRef) (own : Binding) (since : List Grant) : Prop :=
  (∃ earlier, log = earlier ++ ⟨some place, own⟩ :: since) ∧ ∀ g ∈ since, g.holder ≠ some place

namespace LatestTo

variable {log more : List Grant} {place : DeviceRef} {own : Binding} {since : List Grant}

theorem before (h : LatestTo log place own since) : LatestTo (more ++ log) place own since := by
  obtain ⟨⟨earlier, rfl⟩, hsince⟩ := h
  exact ⟨⟨more ++ earlier, (List.append_assoc ..).symm⟩, hsince⟩

theorem after (h : LatestTo log place own since) (others : ∀ g ∈ more, g.holder ≠ some place) :
    LatestTo (log ++ more) place own (since ++ more) := by
  obtain ⟨⟨earlier, rfl⟩, hsince⟩ := h
  refine ⟨⟨earlier, List.append_assoc ..⟩, fun g hg => ?_⟩
  rcases List.mem_append.mp hg with hold | hnew
  · exact hsince g hold
  · exact others g hnew

/-- The last grant of all is the device's own or a later one. -/
theorem getLast? (h : LatestTo log place own since) :
    (log.map Grant.binding).getLast? = (own :: since.map Grant.binding).getLast? := by
  obtain ⟨⟨earlier, rfl⟩, _⟩ := h
  rw [List.map_append, List.map_cons, List.getLast?_append]
  cases hlast : (own :: since.map Grant.binding).getLast? with
  | some b => rfl
  | none => simp at hlast

end LatestTo

/-! ## The layout of a device -/

/-- The device is acquired under the layout. -/
def Device.Holds (l : Layout) (d : Device) : Prop :=
  d.lifecycle = .acquired ∧ d.layout = l

omit [Transport τ] in
theorem Device.not_holds {d : Device} (idle : d.lifecycle ≠ .acquired) (l : Layout) :
    ¬ d.Holds l :=
  fun held => idle held.1

/-- A new device is acquired under no layout. -/
theorem Device.not_holds_create {s : Shared τ} {version : UInt32} {d : Device}
    (made : (Device.create s version).1 = .ok d) (l : Layout) : ¬ d.Holds l := by
  apply Device.not_holds
  rw [Device.lifecycle_create made]
  decide

/-- A device that is acquired after some pads were granted has the layout of the last one
that was granted to it; without any it was acquired before under the same layout. -/
inductive Earned (gs : List Grant) (before : Option Device) (place : DeviceRef) (d : Device) :
    Prop where
  | granted (own : Binding) (since : List Grant) (latest : LatestTo gs place own since)
      (layout : d.layout = own.layout)
  | kept (old : Device) (placed : before = some old) (held : old.Holds d.layout)
      (others : ∀ g ∈ gs, g.holder ≠ some place)

namespace Earned

variable {gs more : List Grant} {before : Option Device} {place : DeviceRef} {d : Device}

/-- What others are granted afterwards does not matter. -/
theorem append (h : Earned gs before place d) (others : ∀ g ∈ more, g.holder ≠ some place) :
    Earned (gs ++ more) before place d := by
  cases h with
  | granted own since latest layout => exact .granted own _ (latest.after others) layout
  | kept old placed held untouched =>
    refine .kept old placed held fun g hg => ?_
    exact (List.mem_append.mp hg).elim (untouched g) (others g)

/-- Nor does what others were granted before. -/
theorem prepend (h : Earned gs before place d) (others : ∀ g ∈ more, g.holder ≠ some place) :
    Earned (more ++ gs) before place d := by
  cases h with
  | granted own since latest layout => exact .granted own since latest.before layout
  | kept old placed held untouched =>
    refine .kept old placed held fun g hg => ?_
    exact (List.mem_append.mp hg).elim (others g) (untouched g)

end Earned

/-- One turn of acquiring. -/
theorem Turn.earned (r : Turn τ) (acquired : (r.device.acquire r.shared).2.1.lifecycle = .acquired) :
    Earned r.grants (some r.device) r.place (r.device.acquire r.shared).2.1 := by
  rcases r.device.acquire_granted r.shared with ⟨b, hgranted, hdevice⟩ | ⟨hgranted, hdevice⟩
  · refine .granted b [] ⟨⟨[], ?_⟩, fun g hg => nomatch hg⟩ ?_
    · rw [grants, hgranted]
      rfl
    · rw [hdevice]
      exact r.device.layout_adopt b.layout
  · rw [hdevice] at acquired ⊢
    refine .kept r.device rfl ⟨acquired, rfl⟩ ?_
    rw [grants, hgranted]
    exact fun g hg => nomatch hg

theorem Turn.holder_of_mem_grants {r : Turn τ} {g : Grant} (hg : g ∈ r.grants) :
    g.holder = some r.place := by
  obtain ⟨b, _, rfl⟩ := List.mem_map.mp hg
  rfl

namespace Manager

/-- The grants of devices that are acquired in turn. -/
def turnGrants (k n : Nat) (ds : List Device) (s : Shared τ) : List Grant :=
  (Turn.along (fun d s => (d.acquire s).2.2) k n ds s).flatMap Turn.grants

theorem turnGrants_cons (k n : Nat) (d : Device) (rest : List Device) (s : Shared τ) :
    turnGrants k n (d :: rest) s =
      (⟨.managed k n, d, s⟩ : Turn τ).grants ++ turnGrants k (n + 1) rest (d.acquire s).2.2 := rfl

theorem holder_of_mem_turnGrants {k n : Nat} {ds : List Device} {s : Shared τ} {g : Grant}
    (hg : g ∈ turnGrants k n ds s) : ∃ i, g.holder = some (.managed k (n + i)) := by
  obtain ⟨r, hr, hg⟩ := List.mem_flatMap.mp hg
  obtain ⟨i, hplace, _⟩ := Turn.mem_along hr
  exact ⟨i, by rw [Turn.holder_of_mem_grants hg, hplace]⟩

/-- Devices that are acquired in turn: each by its own grant. -/
theorem earned_acquireEach (k n : Nat) (ds : List Device) (s : Shared τ) {i : Nat} {d' : Device}
    (found : (acquireEach ds s).2.1[i]? = some d') (acquired : d'.lifecycle = .acquired) :
    Earned (turnGrants k n ds s) ds[i]? (.managed k (n + i)) d' := by
  induction ds generalizing n s i with
  | nil => cases found
  | cons d rest ih =>
    rw [turnGrants_cons]
    cases i with
    | zero =>
      obtain rfl : (d.acquire s).2.1 = d' := Option.some.inj found
      -- the devices after this one are granted pads for places of their own
      have others : ∀ g ∈ turnGrants k (n + 1) rest (d.acquire s).2.2,
          g.holder ≠ some (.managed k n) := by
        intro g hg
        obtain ⟨j, hj⟩ := holder_of_mem_turnGrants hg
        rw [hj]
        simp
        omega
      exact (Turn.earned ⟨.managed k n, d, s⟩ acquired).append others
    | succ i =>
      have others : ∀ g ∈ (⟨.managed k n, d, s⟩ : Turn τ).grants,
          g.holder ≠ some (.managed k (n + (i + 1))) := by
        intro g hg
        rw [Turn.holder_of_mem_grants hg]
        simp
      have hplace : n + 1 + i = n + (i + 1) := by omega
      have hrest := ih (n + 1) (d.acquire s).2.2 found
      rw [hplace] at hrest
      exact hrest.prepend others

end Manager

/-! ## What is bound -/

omit [Transport τ] in
theorem Host.binding_drawNumbers (n : Nat) (s : Session τ) :
    (Host.drawNumbers n s).2.binding = s.binding := by
  induction n generalizing s with
  | zero => rfl
  | succ n ih => exact ih s.nextSequence.2

theorem map_binding_grants (holder : Option DeviceRef) (answer : Option Binding) :
    (answer.toList.map (Grant.mk holder)).map Grant.binding = answer.toList := by
  cases answer <;> rfl

/-- What is bound after every operation is the last pad granted. -/
theorem follows_law : Law (τ := τ) (fun _ => True) grantNotes
    (fun s gs s' => Follows s.binding s'.binding (gs.map Grant.binding)) where
  refl := fun s => .refl s.binding
  trans := fun first second => by
    rw [List.map_append]
    exact first.trans second
  direct := fun h a direct _ => by
    cases a with
    | acquire notify wantName =>
      have hbinding := h.shared.session.binding_acquire notify wantName
      show Follows _ (h.shared.session.acquire notify wantName).2.binding _
      rw [hbinding, grantNotes, map_binding_grants]
      exact .answered _ _
    | connect | disconnect | receive => exact .refl _
    | release => exact .cleared _ _
    | drawSequence count => exact .of_eq (Host.binding_drawNumbers count h.shared.session)
    | _ => cases direct
  search := fun s version => by
    rw [grantNotes, map_binding_grants]
    exact Device.follows_discover s version
  acquire := fun r => by
    show Follows _ _ (r.grants.map Grant.binding)
    rw [Turn.grants, map_binding_grants]
    exact r.device.follows_acquire r.shared
  read := fun r => .of_eq (r.device.read_keeps r.shared).2.1
  giveBack := fun s => .cleared _ _

/-! ## The devices after an action -/

namespace Host

/-- No device is newly acquired under a layout in an action that acquires none. -/
theorem holds_performOnDevice {h : Host τ} {target : DeviceRef} {d : Device} (l : Layout)
    (placed : h.device? target = some d) {action : DeviceAction} (other : action ≠ .acquire) :
    h.Keeps (Device.Holds l) (h.performOnDevice target d action).2 := by
  cases action with
  | acquire => exact absurd rfl other
  | unacquire =>
    rcases d.unacquire_cases h.shared with hr | ⟨_, hr⟩ | ⟨_, hr⟩ <;> simp only [performOnDevice, hr]
    · exact h.keeps_refl
    · exact keeps_setDevice placed id
    · have idle : ({ d with lifecycle := .bound } : Device).lifecycle ≠ .acquired := by simp
      exact keeps_setDevice placed fun held => absurd held (Device.not_holds idle l)
  | close =>
    have idle : d.shut.lifecycle ≠ .acquired := by simp [Device.shut]
    rcases d.close_cases h.shared with hr | ⟨_, hr⟩ | ⟨_, hr⟩ | ⟨_, hr⟩ <;>
      simp only [performOnDevice, hr]
    · exact h.keeps_refl
    · exact keeps_setDevice placed id
    · exact keeps_setDevice placed fun held => absurd held (Device.not_holds idle l)
    · exact keeps_setDevice placed fun held => absurd held (Device.not_holds idle l)
  | read =>
    obtain ⟨t, hdevice⟩ := (d.read_keeps h.shared).1
    simp only [performOnDevice, hdevice]
    exact keeps_setDevice placed id
  | setCalibration filter c =>
    obtain ⟨cs, hdevice⟩ := d.setCalibration_frame filter c
    simp only [performOnDevice, hdevice]
    exact keeps_setDevice placed id
  | notifyOn => exact keeps_setDevice placed id
  | notifyOff => exact keeps_setDevice placed id
  | notifyReset =>
    simp only [performOnDevice]
    split
    · exact keeps_of_places rfl rfl
    · exact h.keeps_refl

theorem holds_performOnManager {h : Host τ} {k : Nat} {m : Manager} (l : Layout)
    (placed : h.manager? k = some m) {action : ManagerAction} (other : action ≠ .acquireAll) :
    h.Keeps (Device.Holds l) (h.performOnManager k m action).2 := by
  cases action with
  | discover => exact keeps_of_places rfl rfl
  | openGamepad =>
    simp only [performOnManager, Manager.openGamepad]
    split
    · exact keeps_setManager placed fun n d' found held => ⟨d', found, held⟩
    · next new made =>
      refine keeps_setManager placed fun n d' found held => ?_
      rcases getElem?_of_append_singleton found with hold | rfl
      · exact ⟨d', hold, held⟩
      · exact absurd held (Device.not_holds_create made l)
  | acquireAll => exact absurd rfl other
  | poll =>
    refine keeps_setManager placed fun n d' found held => ?_
    obtain ⟨d, t, hd, rfl⟩ := Manager.device_readEach found
    exact ⟨d, hd, held⟩
  | drain => exact keeps_setManager placed fun n d' found held => ⟨d', found, held⟩
  | shutdown =>
    simp only [performOnManager]
    split
    · next r hr =>
      obtain ⟨s', _, rfl⟩ := Option.map_eq_some_iff.mp hr
      refine keeps_setManager placed fun n d' found _ => ?_
      simp at found
    · exact h.keeps_refl
  | drop =>
    simp only [performOnManager]
    split
    · exact h.keeps_dropManager _ k
    · exact h.keeps_refl

theorem holds_perform (h : Host τ) {a : Action} (l : Layout)
    (one : ∀ target, a ≠ .device target .acquire) (all : ∀ k, a ≠ .manager k .acquireAll) :
    h.Keeps (Device.Holds l) (h.perform a).2 := by
  cases a with
  | connect | disconnect | acquire | release | receive | drawSequence | discover | probe =>
    exact keeps_of_places rfl rfl
  | create version =>
    simp only [perform]
    split
    · next new made =>
      exact h.keeps_create _ (Device.not_holds_create made l)
    · exact keeps_of_places rfl rfl
  | drop place =>
    simp only [perform]
    split
    · exact h.keeps_refl
    · split
      · exact h.keeps_dropDevice _ place
      · exact h.keeps_refl
  | device target action =>
    cases hd : h.device? target with
    | none =>
      simp only [perform, hd]
      exact h.keeps_refl
    | some d =>
      simp only [perform, hd]
      exact holds_performOnDevice l hd fun hacquire => one target (by rw [hacquire])
  | manage settings => exact h.keeps_manage settings
  | manager k action =>
    cases hm : h.manager? k with
    | none =>
      rw [perform_of_absent_manager hm]
      exact h.keeps_refl
    | some m =>
      simp only [perform, hm]
      exact holds_performOnManager l hm fun hacquire => all k (by rw [hacquire])

/-- Pads are granted to the devices that are to be acquired, or to none. -/
theorem holder_of_mem_grants {h : Host τ} {a : Action} {g : Grant} (hg : g ∈ h.grants a) :
    g.holder = none ∨ ∃ r ∈ h.acquisitions a, g.holder = some r.place := by
  have nobody : ∀ answer : Option Binding, g ∈ answer.toList.map (Grant.mk none) →
      g.holder = none := by
    intro answer hmem
    obtain ⟨b, _, rfl⟩ := List.mem_map.mp hmem
    rfl
  simp only [grants, noted, List.mem_append, List.mem_flatMap, grantNotes] at hg
  rcases hg with ((hdirect | ⟨s, _, hsearch⟩) | ⟨r, hr, hgranted⟩) | ⟨_, _, hread⟩
  · split at hdirect
    · split at hdirect
      · exact Or.inl (nobody _ hdirect)
      · cases hdirect
    · cases hdirect
  · exact Or.inl (nobody _ hsearch)
  · exact Or.inr ⟨r, hr, Turn.holder_of_mem_grants hgranted⟩
  · cases hread

/-- A device that is not to be acquired is granted nothing. -/
theorem untouched_of_not_asked {h : Host τ} {a : Action} {place : DeviceRef}
    (unasked : ∀ r ∈ h.acquisitions a, r.place ≠ place) :
    ∀ g ∈ h.grants a, g.holder ≠ some place := by
  intro g hg
  rcases holder_of_mem_grants hg with hnone | ⟨r, hr, hholder⟩
  · rw [hnone]
    exact nofun
  · rw [hholder]
    exact fun hsame => unasked r hr (Option.some.inj hsame)

theorem earned_acquire {h : Host τ} {target place : DeviceRef} {d : Device}
    (found : (h.perform (.device target .acquire)).2.device? place = some d)
    (acquired : d.lifecycle = .acquired) :
    Earned (h.grants (.device target .acquire)) (h.device? place) place d := by
  have places : ∀ r ∈ h.acquisitions (.device target .acquire), r.place = target :=
    fun r hr => (mem_turnOf hr).1
  cases hd : h.device? target with
  | none =>
    simp only [perform, hd] at found
    refine .kept d found ⟨acquired, rfl⟩ (untouched_of_not_asked ?_)
    simp [acquisitions, turnOf_of_absent hd]
  | some old =>
    simp only [perform, hd, performOnDevice] at found
    rw [device?_setDevice (h := { h with shared := (old.acquire h.shared).2.2 }) hd] at found
    by_cases hplace : place = target
    · subst hplace
      rw [if_pos rfl] at found
      obtain rfl : (old.acquire h.shared).2.1 = d := Option.some.inj found
      have hgrants : h.grants (.device place .acquire) =
          (⟨place, old, h.shared⟩ : Turn τ).grants := by
        rw [grants, noted_acquire, turnOf_of_placed hd, List.flatMap_singleton]
        rfl
      rw [hgrants, hd]
      exact Turn.earned ⟨place, old, h.shared⟩ acquired
    · rw [if_neg hplace] at found
      refine .kept d found ⟨acquired, rfl⟩ (untouched_of_not_asked fun r hr => ?_)
      rw [places r hr]
      exact Ne.symm hplace

theorem earned_acquireAll {h : Host τ} {k : Nat} {place : DeviceRef} {d : Device}
    (found : (h.perform (.manager k .acquireAll)).2.device? place = some d)
    (acquired : d.lifecycle = .acquired) :
    Earned (h.grants (.manager k .acquireAll)) (h.device? place) place d := by
  cases hm : h.manager? k with
  | none =>
    simp only [perform, hm] at found
    refine .kept d found ⟨acquired, rfl⟩ (untouched_of_not_asked ?_)
    simp [acquisitions, turnsOf_of_absent hm]
  | some m =>
    have elsewhere : (∀ n, place ≠ .managed k n) → h.device? place = some d →
        Earned (h.grants (.manager k .acquireAll)) (h.device? place) place d := by
      intro hplace hkept
      refine .kept d hkept ⟨acquired, rfl⟩ (untouched_of_not_asked fun r hr => ?_)
      obtain ⟨_, _, hr⟩ := mem_turnsOf hr
      obtain ⟨i, hi, _⟩ := Turn.mem_along hr
      rw [hi]
      exact Ne.symm (hplace _)
    simp only [perform, hm, performOnManager] at found
    cases place with
    | own n => exact elsewhere (fun i => DeviceRef.noConfusion) found
    | managed j n =>
      rw [device?_setManager (h := { h with shared := (m.acquireAll h.shared).2.2 }) hm] at found
      by_cases hjk : j = k
      · subst hjk
        rw [if_pos rfl] at found
        have hgrants : h.grants (.manager j .acquireAll) =
            Manager.turnGrants j 0 m.devices h.shared := by
          rw [grants, noted_acquireAll, turnsOf_of_placed hm]
          rfl
        have hbefore : h.device? (.managed j n) = m.devices[n]? := by
          rw [device?, hm]
          rfl
        have hearned := Manager.earned_acquireEach j 0 m.devices h.shared found acquired
        rw [hgrants, hbefore]
        rwa [Nat.zero_add] at hearned
      · rw [if_neg hjk] at found
        refine elsewhere (fun i hsame => ?_) found
        cases hsame
        exact hjk rfl

/-- The layout of a device that is acquired after an action is that of the pad granted to it
last, or the one it had before. -/
theorem earned_perform {h : Host τ} {a : Action} {place : DeviceRef} {d : Device}
    (found : (h.perform a).2.device? place = some d) (acquired : d.lifecycle = .acquired) :
    Earned (h.grants a) (h.device? place) place d := by
  by_cases one : ∃ target, a = .device target .acquire
  · obtain ⟨target, rfl⟩ := one
    exact earned_acquire found acquired
  · by_cases all : ∃ k, a = .manager k .acquireAll
    · obtain ⟨k, rfl⟩ := all
      exact earned_acquireAll found acquired
    · have hone : ∀ target, a ≠ .device target .acquire := fun target ha => one ⟨target, ha⟩
      have hall : ∀ k, a ≠ .manager k .acquireAll := fun k ha => all ⟨k, ha⟩
      obtain ⟨old, hold, held⟩ := h.holds_perform d.layout hone hall place d found ⟨acquired, rfl⟩
      have hnobody : h.acquisitions a = [] := by
        unfold acquisitions
        split
        · exact absurd rfl (hone _)
        · exact absurd rfl (hall _)
        · rfl
      refine .kept old hold held (untouched_of_not_asked ?_)
      rw [hnobody]
      exact fun r hr => nomatch hr

end Host

end RemotePad
