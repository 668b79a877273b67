import RemotePad.Proofs.Host.Places
import RemotePad.Proofs.Manager.Devices

/-!
# What an action of a host comes to

All devices of a host share one session, and with it one transport and one binding.  What
an action does to these, it does to every device that is acquired.

* `Host.Withdraws` lists the actions that can take the pad from acquired devices: a device
  stops being acquired, a bound device fails to be acquired, or no pad is found.
* `Host.Renews` lists those that bring it back: a bound device is acquired, or a pad is
  found.
* `Host.Undisturbed` relates a host to one with the same transport and binding, as far as
  devices see them, in which no device is newly acquired.
* `Host.outcome`: an action that goes through devices and managers withdraws the pad, or
  leaves a live session, or disturbs nothing.
-/

namespace RemotePad

/-! ## Actions and what they are about -/

/-- The actions that go to the session itself, past all devices and managers. -/
def Action.isDirect : Action → Bool
  | .connect | .disconnect | .acquire _ _ | .release | .receive | .drawSequence _ => true
  | _ => false

/-- The actions that look for a pad without asking for its reports. -/
def Action.looks : Action → Bool
  | .discover _ | .probe _ | .create _ | .manager _ .discover | .manager _ .openGamepad => true
  | _ => false

/-- Whether an action is to acquire the device in a place. -/
def Action.acquires : Action → DeviceRef → Bool
  | .device target .acquire, place => place = target
  | .manager k .acquireAll, .managed j _ => j = k
  | _, _ => false

/-- Whether the reply to an action that looks for a pad tells of one. -/
def Reply.sight? : Reply → Option Bool
  | .found result => some result.toBool
  | .opened result => some result.toBool
  | .instances values => some (!values.isEmpty)
  | _ => none

namespace Host

variable {τ : Type} [Transport τ]

/-- The action can take the pad from the devices that are acquired. -/
inductive Withdraws (h : Host τ) (a : Action) : Prop where
  /-- A device that was acquired is acquired no more. -/
  | givesBack (target : DeviceRef) (acquired : h.stage? target = some .acquired)
      (left : (h.perform a).2.stage? target ≠ some .acquired)
  /-- A device was to be acquired and is still only bound. -/
  | misses (target : DeviceRef) (asked : a.acquires target = true)
      (bound : h.stage? target = some .bound)
      (still : (h.perform a).2.stage? target = some .bound)
  /-- No pad was found. -/
  | findsNone (looked : a.looks = true) (unseen : (h.perform a).1.sight? = some false)

/-- The action brings the pad back to the devices that are acquired. -/
inductive Renews (h : Host τ) (a : Action) : Prop where
  /-- A device that was bound became acquired. -/
  | acquires (target : DeviceRef) (asked : a.acquires target = true)
      (bound : h.stage? target = some .bound)
      (acquired : (h.perform a).2.stage? target = some .acquired)
  /-- A pad was found. -/
  | finds (looked : a.looks = true) (seen : (h.perform a).1.sight? = some true)

/-- The transport and the binding are as before, and no device is newly acquired. -/
structure Undisturbed (h h' : Host τ) : Prop where
  isOpen : h'.shared.session.isOpen = h.shared.session.isOpen
  binding : h'.shared.session.binding = h.shared.session.binding
  idle : h.KeepsIdle h'

/-- What an action can come to.  Where the session is live afterwards, it was live before or
the action renewed the pad. -/
inductive Outcome (h : Host τ) (a : Action) (after : Host τ) : Prop where
  | withdrawn (cause : h.Withdraws a)
      (source : after.shared.session.Live → h.shared.session.Live ∨ h.Renews a)
  | live (live : after.shared.session.Live) (source : h.shared.session.Live ∨ h.Renews a)
  | undisturbed (same : h.Undisturbed after)
      (unseen : a.looks = true → (h.perform a).1.sight? ≠ some true)

namespace Undisturbed

theorem refl (h : Host τ) : h.Undisturbed h := ⟨rfl, rfl, h.keepsIdle_refl⟩

theorem live_iff {h h' : Host τ} (same : h.Undisturbed h') :
    h'.shared.session.Live ↔ h.shared.session.Live := by
  rw [Session.Live, Session.Live, same.isOpen, same.binding]

/-- One device was replaced by one that is not newly acquired. -/
theorem setDevice {h : Host τ} {target : DeviceRef} {old d : Device} {s : Shared τ}
    (placed : h.device? target = some old)
    (idle : d.lifecycle = .acquired → old.lifecycle = .acquired)
    (hopen : s.session.isOpen = h.shared.session.isOpen)
    (hbinding : s.session.binding = h.shared.session.binding) :
    h.Undisturbed ({ h with shared := s }.setDevice d target) where
  isOpen := by
    rw [shared_setDevice]
    exact hopen
  binding := by
    rw [shared_setDevice]
    exact hbinding
  idle := fun other hs =>
    keepsIdle_setDevice (h := { h with shared := s }) placed idle other hs

/-- The devices of one manager were replaced by ones that are not newly acquired. -/
theorem setManager {h : Host τ} {k : Nat} {old m : Manager} {s : Shared τ}
    (placed : h.manager? k = some old)
    (idle : ∀ n : Nat, (m.devices[n]?).map Device.lifecycle = some .acquired →
      (old.devices[n]?).map Device.lifecycle = some .acquired)
    (hopen : s.session.isOpen = h.shared.session.isOpen)
    (hbinding : s.session.binding = h.shared.session.binding) :
    h.Undisturbed ({ h with shared := s }.setManager m k) where
  isOpen := hopen
  binding := hbinding
  idle := fun other hs => keepsIdle_setManager (h := { h with shared := s }) placed idle other hs

end Undisturbed

/-! ## What an action comes to -/

section Outcomes

variable [LawfulTransport τ] {h : Host τ}

/-- A device that stops being acquired gives the pad back and closes the transport. -/
theorem outcome_of_left {target : DeviceRef} {action : DeviceAction} {d d' : Device}
    (placed : h.device? target = some d) (acquired : d.lifecycle = .acquired)
    (left : d'.lifecycle ≠ .acquired)
    (result : (h.perform (.device target action)).2 =
      { h with shared := ⟨h.shared.session.release.disconnect, h.shared.signals⟩ }.setDevice d'
        target) :
    h.Outcome (.device target action) (h.perform (.device target action)).2 := by
  have hstage : (h.perform (.device target action)).2.stage? target = some d'.lifecycle := by
    rw [result, stage?_setDevice _ placed]
  have hclosed : (h.perform (.device target action)).2.shared.session.isOpen = false := by
    rw [result, shared_setDevice]
    exact Session.isOpen_disconnect _
  refine .withdrawn (.givesBack target (stage?_eq_some.mpr ⟨d, placed, acquired⟩) ?_)
    fun hlive => absurd hlive (Session.not_live (Or.inr hclosed))
  rw [hstage]
  exact fun hsame => left (Option.some.inj hsame)

theorem outcome_device {target : DeviceRef} {d : Device} (placed : h.device? target = some d)
    (action : DeviceAction) :
    h.Outcome (.device target action) (h.perform (.device target action)).2 := by
  have hperform : h.perform (.device target action) = h.performOnDevice target d action := by
    simp only [perform, placed]
  cases action with
  | acquire =>
    have asked : (Action.device target .acquire).acquires target = true := by
      simp [Action.acquires]
    rcases d.acquire_cases h.shared with
      ⟨_, hsame⟩ | ⟨hbound, b, _, hdevice, hopen, hbinding, _⟩ |
      ⟨hbound, _, hdevice, hsession, _⟩
    · simp only [hperform, performOnDevice, hsame]
      exact .undisturbed (.setDevice placed id rfl rfl) (nomatch ·)
    · refine .live ?_ (Or.inr (.acquires target asked
        (stage?_eq_some.mpr ⟨d, placed, hbound⟩) ?_))
      · simp only [hperform, performOnDevice, shared_setDevice]
        exact ⟨hopen, b, hbinding⟩
      · simp only [hperform, performOnDevice, hdevice, stage?_setDevice _ placed]
    · refine .withdrawn (.misses target asked (stage?_eq_some.mpr ⟨d, placed, hbound⟩) ?_)
        fun hlive => ?_
      · simp only [hperform, performOnDevice, hdevice, stage?_setDevice _ placed, hbound]
      · simp only [hperform, performOnDevice, shared_setDevice] at hlive
        exact absurd hlive (Session.not_live (hsession.imp_right fun h => h.2.1))
  | unacquire =>
    rcases d.unacquire_cases h.shared with hr | ⟨_, hr⟩ | ⟨acquired, hr⟩
    · simp only [hperform, performOnDevice, hr]
      exact .undisturbed (.refl h) (nomatch ·)
    · simp only [hperform, performOnDevice, hr]
      exact .undisturbed (.setDevice placed id rfl rfl) (nomatch ·)
    · have left : ({ d with lifecycle := .bound } : Device).lifecycle ≠ .acquired := (nomatch ·)
      exact outcome_of_left placed acquired left (by simp only [hperform, performOnDevice, hr])
  | close =>
    rcases d.close_cases h.shared with hr | ⟨_, hr⟩ | ⟨_, hr⟩ | ⟨acquired, hr⟩
    · simp only [hperform, performOnDevice, hr]
      exact .undisturbed (.refl h) (nomatch ·)
    · simp only [hperform, performOnDevice, hr]
      exact .undisturbed (.setDevice placed id rfl rfl) (nomatch ·)
    · simp only [hperform, performOnDevice, hr]
      exact .undisturbed (.setDevice placed (nomatch ·) rfl rfl) (nomatch ·)
    · have left : d.shut.lifecycle ≠ .acquired := (nomatch ·)
      exact outcome_of_left placed acquired left (by simp only [hperform, performOnDevice, hr])
  | read =>
    obtain ⟨⟨t, hdevice⟩, hopen, hbinding, _⟩ := d.read_frame h.shared
    rw [hperform]
    refine .undisturbed (.setDevice placed ?_ hopen hbinding) (nomatch ·)
    rw [hdevice]
    exact id
  | setCalibration filter c =>
    obtain ⟨cs, hdevice⟩ := d.setCalibration_frame filter c
    rw [hperform]
    refine .undisturbed (.setDevice placed ?_ rfl rfl) (nomatch ·)
    rw [hdevice]
    exact id
  | notifyOn =>
    have hset : h.Undisturbed
        (h.setDevice { d with notify := some h.shared.signals.fresh.1 } target) :=
      .setDevice placed id rfl rfl
    rw [hperform]
    exact .undisturbed ⟨hset.isOpen, hset.binding, hset.idle⟩ (nomatch ·)
  | notifyOff =>
    rw [hperform]
    exact .undisturbed (.setDevice placed id rfl rfl) (nomatch ·)
  | notifyReset =>
    simp only [hperform, performOnDevice]
    split
    · exact .undisturbed ⟨rfl, rfl, keepsIdle_of_places rfl rfl⟩ (nomatch ·)
    · exact .undisturbed (.refl h) (nomatch ·)

theorem outcome_drop (h : Host τ) (place : Nat) :
    h.Outcome (.drop place) (h.perform (.drop place)).2 := by
  cases hd : h.device? (.own place) with
  | none =>
    simp only [perform, hd]
    exact .undisturbed (.refl h) (nomatch ·)
  | some d =>
    rcases d.close_cases h.shared with hr | ⟨_, hr⟩ | ⟨_, hr⟩ | ⟨acquired, hr⟩
    · simp only [perform, hd, hr]
      exact .undisturbed (.refl h) (nomatch ·)
    · simp only [perform, hd, hr]
      exact .undisturbed ⟨rfl, rfl, h.keepsIdle_dropDevice h.shared place⟩ (nomatch ·)
    · simp only [perform, hd, hr]
      exact .undisturbed ⟨rfl, rfl, h.keepsIdle_dropDevice h.shared place⟩ (nomatch ·)
    · refine .withdrawn (.givesBack (.own place) (stage?_eq_some.mpr ⟨d, hd, acquired⟩) ?_)
        fun hlive => ?_
      · simp only [perform, hd, hr, stage?_dropDevice]
        exact (nomatch ·)
      · simp only [perform, hd, hr] at hlive
        exact absurd hlive (Session.not_live (Or.inr (Session.isOpen_disconnect _)))

/-- Every action that looks for a pad comes down to a discovery. -/
theorem outcome_of_discovery {a : Action} (looked : a.looks = true) (version : UInt32)
    (session : (h.perform a).2.shared.session = (Device.discover h.shared.session version).2)
    (sight : (h.perform a).1.sight? =
      some (Device.discover h.shared.session version).1.toBool) :
    h.Outcome a (h.perform a).2 := by
  cases hfound : (Device.discover h.shared.session version).1 with
  | error e =>
    rw [hfound] at sight
    refine .withdrawn (.findsNone looked sight) fun hlive => Or.inl ?_
    rw [session] at hlive
    exact Device.live_of_live_discover hfound hlive
  | ok i =>
    rw [hfound] at sight
    refine .live ?_ (Or.inr (.finds looked sight))
    rw [session]
    exact Device.live_discover hfound

/-- An action that looks for a pad makes a discovery and tells what came of it; only where no
manager stands, nothing is done. -/
theorem search_of_looks (h : Host τ) {a : Action} (looked : a.looks = true) :
    ((h.perform a).1.sight? = none ∧ (h.perform a).2 = h) ∨
    ∃ version,
      (h.perform a).2.shared.session = (Device.discover h.shared.session version).2 ∧
      (h.perform a).1.sight? = some (Device.discover h.shared.session version).1.toBool := by
  have create : ∀ version,
      (Device.create h.shared version).2.session = (Device.discover h.shared.session version).2 ∧
      (Device.create h.shared version).1.toBool =
        (Device.discover h.shared.session version).1.toBool :=
    fun version => Device.create_discover h.shared version
  cases a with
  | discover version => exact Or.inr ⟨version, rfl, rfl⟩
  | probe version =>
    obtain ⟨hsession, hfound⟩ := Device.probe_discover h.shared.session version
    exact Or.inr ⟨version, hsession, congrArg some hfound⟩
  | create version =>
    refine Or.inr ⟨version, ?_⟩
    rw [← (create version).1, ← (create version).2]
    simp only [perform]
    split
    · next heq => exact ⟨rfl, by rw [heq]; rfl⟩
    · next heq => exact ⟨rfl, by rw [heq]; rfl⟩
  | manager k action =>
    cases hm : h.manager? k with
    | none =>
      refine Or.inl ?_
      cases action <;> simp only [perform, hm] <;> exact ⟨rfl, trivial⟩
    | some m =>
      refine Or.inr ⟨m.settings.version, ?_⟩
      simp only [perform, hm]
      cases action with
      | discover =>
        obtain ⟨hsession, hfound⟩ := Device.probe_discover h.shared.session m.settings.version
        exact ⟨hsession, congrArg some hfound⟩
      | openGamepad =>
        rw [← (create m.settings.version).1, ← (create m.settings.version).2]
        simp only [performOnManager, Manager.openGamepad]
        split
        · next heq => exact ⟨rfl, by rw [heq]; rfl⟩
        · next heq => exact ⟨rfl, by rw [heq]; rfl⟩
      | _ => cases looked
  | _ => cases looked

theorem outcome_of_looks (h : Host τ) {a : Action} (looked : a.looks = true) :
    h.Outcome a (h.perform a).2 := by
  rcases h.search_of_looks looked with ⟨hunseen, hstays⟩ | ⟨version, hsession, hsight⟩
  · rw [hstays]
    refine .undisturbed (.refl h) fun _ => ?_
    rw [hunseen]
    exact (nomatch ·)
  · exact outcome_of_discovery looked version hsession hsight

theorem outcome_manager (k : Nat) (action : ManagerAction) :
    h.Outcome (.manager k action) (h.perform (.manager k action)).2 := by
  cases hm : h.manager? k with
  | none =>
    have hstays : (h.perform (.manager k action)).2 = h ∧
        (h.perform (.manager k action)).1.sight? = none := by
      cases action <;> simp only [perform, hm] <;> exact ⟨trivial, rfl⟩
    rw [hstays.1]
    refine .undisturbed (.refl h) fun _ => ?_
    rw [hstays.2]
    exact (nomatch ·)
  | some m =>
    have hperform : h.perform (.manager k action) = h.performOnManager k m action := by
      simp only [perform, hm]
    have before : ∀ (n : Nat) (d : Device), m.devices[n]? = some d →
        h.stage? (.managed k n) = some d.lifecycle := fun n d hn =>
      stage?_eq_some.mpr ⟨d, Option.bind_eq_some_iff.mpr ⟨m, hm, hn⟩, rfl⟩
    cases action with
    | discover => exact h.outcome_of_looks rfl
    | openGamepad => exact h.outcome_of_looks rfl
    | acquireAll =>
      have asked : ∀ n, (Action.manager k .acquireAll).acquires (.managed k n) = true := by
        simp [Action.acquires]
      have after : ∀ (n : Nat) (d : Device),
          (Manager.acquireEach m.devices h.shared).2.1[n]? = some d →
          (h.perform (.manager k .acquireAll)).2.stage? (.managed k n) = some d.lifecycle := by
        intro n d hn
        simp only [hperform, performOnManager, Manager.acquireAll, stage?_setManager _ hm, hn,
          Option.map_some]
      have source : (h.perform (.manager k .acquireAll)).2.shared.session.Live →
          h.shared.session.Live ∨ h.Renews (.manager k .acquireAll) := by
        intro hlive
        rw [hperform] at hlive
        rcases Manager.acquireEach_source m.devices h.shared hlive with
          hbefore | ⟨n, d, d', hn, hbound, hn', acquired⟩
        · exact Or.inl hbefore
        · refine Or.inr (.acquires (.managed k n) (asked n) ?_ ?_)
          · rw [before n d hn, hbound]
          · rw [after n d' hn', acquired]
      rcases Manager.acquireEach_cases m.devices h.shared with
        hsame | hlive | ⟨n, d, hn, hbound, hn'⟩
      · simp only [hperform, performOnManager, Manager.acquireAll, hsame]
        exact .undisturbed (.setManager hm (fun _ hs => hs) rfl rfl) (nomatch ·)
      · have hafter : (h.perform (.manager k .acquireAll)).2.shared.session.Live := by
          rw [hperform]
          exact hlive
        exact .live hafter (source hafter)
      · refine .withdrawn (.misses (.managed k n) (asked n) ?_ ?_) source
        · rw [before n d hn, hbound]
        · rw [after n d hn', hbound]
    | poll =>
      obtain ⟨hopen, hbinding, hstages⟩ := Manager.readEach_frame m.devices h.shared
      rw [hperform]
      refine .undisturbed (.setManager hm (fun n hs => ?_) hopen hbinding) (nomatch ·)
      rw [← List.getElem?_map] at hs ⊢
      rw [← hstages]
      exact hs
    | drain =>
      rw [hperform]
      exact .undisturbed (.setManager hm (fun _ hs => hs) rfl rfl) (nomatch ·)
    | shutdown =>
      rcases m.shutdown_cases h.shared with hr | ⟨s', hr, rfl | ⟨hclosed, n, d, hn, acquired⟩⟩
      · simp only [hperform, performOnManager, hr]
        exact .undisturbed (.refl h) (nomatch ·)
      · simp only [hperform, performOnManager, hr]
        exact .undisturbed (.setManager hm (fun _ hs => nomatch hs) rfl rfl) (nomatch ·)
      · refine .withdrawn (.givesBack (.managed k n) (by rw [before n d hn, acquired]) ?_)
          fun hlive => ?_
        · simp only [hperform, performOnManager, hr, stage?_setManager _ hm]
          exact (nomatch ·)
        · simp only [hperform, performOnManager, hr] at hlive
          exact absurd hlive (Session.not_live (Or.inr hclosed))
    | drop =>
      rcases m.shutdown_cases h.shared with hr | ⟨s', hr, rfl | ⟨hclosed, n, d, hn, acquired⟩⟩
      · simp only [hperform, performOnManager, hr]
        exact .undisturbed (.refl h) (nomatch ·)
      · simp only [hperform, performOnManager, hr]
        exact .undisturbed ⟨rfl, rfl, h.keepsIdle_dropManager h.shared k⟩ (nomatch ·)
      · refine .withdrawn (.givesBack (.managed k n) (by rw [before n d hn, acquired]) ?_)
          fun hlive => ?_
        · simp only [hperform, performOnManager, hr, stage?_dropManager]
          exact (nomatch ·)
        · simp only [hperform, performOnManager, hr] at hlive
          exact absurd hlive (Session.not_live (Or.inr hclosed))

/-- Whatever goes through devices and managers has one of the three outcomes. -/
theorem outcome (h : Host τ) {a : Action} (indirect : a.isDirect = false) :
    h.Outcome a (h.perform a).2 := by
  cases a with
  | discover | probe | create => exact h.outcome_of_looks rfl
  | drop place => exact h.outcome_drop place
  | device target action =>
    cases hd : h.device? target with
    | none =>
      simp only [perform, hd]
      exact .undisturbed (.refl h) (nomatch ·)
    | some d => exact outcome_device hd action
  | manage settings => exact .undisturbed ⟨rfl, rfl, h.keepsIdle_manage settings⟩ (nomatch ·)
  | manager k action => exact outcome_manager k action
  | connect | disconnect | acquire | release | receive | drawSequence => cases indirect

/-- Where the session is live after an action, it was so before or the pad was renewed. -/
theorem live_source {a : Action} (indirect : a.isDirect = false)
    (live : (h.perform a).2.shared.session.Live) : h.shared.session.Live ∨ h.Renews a := by
  cases h.outcome indirect with
  | withdrawn cause source => exact source live
  | live _ source => exact source
  | undisturbed same _ => exact Or.inl (same.live_iff.mp live)

omit [LawfulTransport τ] in
/-- An action that disturbs nothing and finds no pad renews nothing. -/
theorem not_renews_of_undisturbed {a : Action} (same : h.Undisturbed (h.perform a).2)
    (unseen : a.looks = true → (h.perform a).1.sight? ≠ some true) : ¬ h.Renews a := by
  intro renews
  cases renews with
  | acquires target asked bound acquired =>
    -- what is acquired afterwards was acquired before, and not bound
    rw [same.idle target acquired] at bound
    cases bound
  | finds looked seen => exact unseen looked seen

end Outcomes

end Host

end RemotePad
