import Mathlib.Data.Finset.Card
import Mathlib.Data.Finset.Union
import Mathlib.Data.List.Induction
import RemotePad.Proofs.Host.Buffers
import RemotePad.Proofs.Host.Stages
import RemotePad.Proofs.Transport.Tapped
import RemotePad.Transport.Scripted

/-!
# Releases of pads

A host over a tapped transport shows how many releases it hands to the server.  Each is that of
a device which was acquired and then is not.

* `Host.held`: the places of acquired devices.  `Host.takings` counts along a run how often a
  bound device becomes acquired.
* `Host.releases_perform`: an action hands over one release for each device that it takes out
  of `held`.
* `Host.releases_run`: along a run, what was taken is released or still held.
* `Device.Inert`: operations of devices that have nothing to give back.
* `releases_only_held_pads`: the whole of it.
-/

namespace RemotePad

variable {τ : Type}

/-! ## Devices that hold a pad -/

namespace Host

/-- All places in which a device may stand. -/
def places (h : Host τ) : Finset DeviceRef :=
  (Finset.range h.devices.length).image .own ∪
    (Finset.range h.managers.length).biUnion fun k =>
      (Finset.range ((h.manager? k).elim 0 fun m => m.devices.length)).image (.managed k)

/-- The places of acquired devices. -/
def held (h : Host τ) : Finset DeviceRef :=
  h.places.filter fun place => h.stage? place = some .acquired

theorem mem_places {h : Host τ} {place : DeviceRef} {d : Device}
    (placed : h.device? place = some d) : place ∈ h.places := by
  cases place with
  | own n =>
    refine Finset.mem_union_left _ (Finset.mem_image_of_mem _ (Finset.mem_range.mpr ?_))
    exact lt_length_of_join placed
  | managed k n =>
    obtain ⟨m, hm, hn⟩ := Option.bind_eq_some_iff.mp placed
    have hlt : n < m.devices.length := (List.getElem?_eq_some_iff.mp hn).1
    refine Finset.mem_union_right _ (Finset.mem_biUnion.mpr ⟨k, ?_, ?_⟩)
    · exact Finset.mem_range.mpr (lt_length_of_join hm)
    · refine Finset.mem_image_of_mem _ (Finset.mem_range.mpr ?_)
      rw [hm]
      exact hlt

theorem mem_held {h : Host τ} {place : DeviceRef} :
    place ∈ h.held ↔ h.stage? place = some .acquired := by
  refine ⟨fun hmem => (Finset.mem_filter.mp hmem).2, fun hstage => ?_⟩
  obtain ⟨d, placed, _⟩ := stage?_eq_some.mp hstage
  exact Finset.mem_filter.mpr ⟨mem_places placed, hstage⟩

theorem held_fresh (link : τ) : (fresh link).held = ∅ :=
  Finset.filter_eq_empty_iff.mpr fun place _ => by
    cases place <;> simp [stage?, device?, fresh, manager?]

/-- Whose pad the action gives back while the device stays. -/
def givesBack? : Action → Option DeviceRef
  | .device place .unacquire => some place
  | _ => none

/-! ## Devices that an action takes out -/

/-- When only one place changes, only its device can stop to hold a pad. -/
theorem held_sdiff_of_one {h h' : Host τ} {place : DeviceRef}
    (others : ∀ other, other ≠ place → h'.stage? other = h.stage? other)
    (dropped : h'.stage? place ≠ some .acquired) :
    (h.held \ h'.held).card = if h.stage? place = some .acquired then 1 else 0 := by
  have hdiff : h.held \ h'.held = h.held.filter fun other => other = place := by
    ext other
    rw [Finset.mem_sdiff, Finset.mem_filter, mem_held, mem_held]
    by_cases hother : other = place
    · subst hother
      simp [dropped]
    · simp [hother, others other hother]
  rw [hdiff, Finset.filter_eq']
  split
  · next hmem => rw [if_pos (mem_held.mp hmem), Finset.card_singleton]
  · next hmem => rw [if_neg fun acquired => hmem (mem_held.mpr acquired), Finset.card_empty]

/-- The acquired devices of a list, counted by their places. -/
theorem card_acquired (k : Nat) (ds : List Device) :
    (((Finset.range ds.length).filter fun n =>
        (ds[n]?).map Device.lifecycle = some .acquired).image (DeviceRef.managed k)).card =
      ds.countP fun d => d.lifecycle = .acquired := by
  rw [Finset.card_image_of_injective _ fun n m hnm => (DeviceRef.managed.inj hnm).2]
  induction ds using List.reverseRecOn with
  | nil => rfl
  | append_singleton ds d ih =>
    have hbefore : ∀ n ∈ Finset.range ds.length, ((ds ++ [d])[n]?).map Device.lifecycle =
        some .acquired ↔ (ds[n]?).map Device.lifecycle = some .acquired := fun n hn => by
      rw [List.getElem?_append_left (Finset.mem_range.mp hn)]
    rw [List.length_append, List.length_singleton, Finset.range_add_one, Finset.filter_insert,
      Finset.filter_congr hbefore, List.countP_append, List.countP_singleton, ← ih]
    simp only [List.getElem?_concat_length, Option.map_some, Option.some.injEq, decide_eq_true_eq]
    split
    · rw [Finset.card_insert_of_notMem (by simp)]
    · rfl

/-! ## Counting -/

/-- How often a bound device becomes acquired along a run. -/
def takings [Transport τ] (h : Host τ) : List Action → Nat
  | [] => 0
  | a :: rest =>
    ((h.perform a).2.held.filter fun place => h.stage? place = some .bound).card +
      takings (h.perform a).2 rest

/-- How many releases were handed to the transport. -/
def releases (h : Host (Tapped τ)) : Nat :=
  h.shared.session.releases

section

variable [Transport τ] {h : Host (Tapped τ)}

omit [Transport τ] in
theorem releases_drawNumbers (n : Nat) (s : Session (Tapped τ)) :
    (drawNumbers n s).2.releases = s.releases := by
  induction n generalizing s with
  | zero => rfl
  | succ n ih => exact ih s.nextSequence.2

/-- Nobody gives a pad back in an action without closings that is no giving back itself. -/
theorem held_subset_perform {a : Action} {h' : Host (Tapped τ)} (performed : (h.perform a).2 = h')
    (opens : h.closings a = []) (keeps : givesBack? a = none) : h.held ⊆ h'.held := by
  subst performed
  intro place hmem
  rw [mem_held] at hmem ⊢
  have hmoves := h.moves_perform a place
  generalize hbefore : h.stage? place = before at hmoves hmem
  generalize (h.perform a).2.stage? place = after at hmoves
  cases hmoves with
  | rests => exact hmem
  | made => cases hmem
  | acquired => rfl
  | unacquired own =>
    rw [own] at keeps
    cases keeps
  | closed turn =>
    rw [opens] at turn
    cases turn

omit [Transport τ] in
/-- Where nothing is released and no device stops to hold a pad, the account is even. -/
theorem releases_of_kept {h' : Host (Tapped τ)} (same : h'.releases = h.releases)
    (keeps : h.held ⊆ h'.held) : h'.releases = h.releases + (h.held \ h'.held).card := by
  rw [same, Finset.sdiff_eq_empty_iff_subset.mpr keeps]
  rfl

/-- So it is with an action of this kind that releases nothing. -/
theorem releases_of_open {a : Action} {h' : Host (Tapped τ)} (performed : (h.perform a).2 = h')
    (opens : h.closings a = []) (keeps : givesBack? a = none)
    (same : h'.releases = h.releases) : h'.releases = h.releases + (h.held \ h'.held).card :=
  releases_of_kept same (held_subset_perform performed opens keeps)

omit [Transport τ] in
/-- The one device that changes releases its pad if it had one. -/
theorem releases_of_one {h' : Host (Tapped τ)} {place : DeviceRef} {d : Device}
    (placed : h.device? place = some d)
    (counted : h'.releases = h.releases + if d.lifecycle = .acquired then 1 else 0)
    (others : ∀ other, other ≠ place → h'.stage? other = h.stage? other)
    (dropped : h'.stage? place ≠ some .acquired) :
    h'.releases = h.releases + (h.held \ h'.held).card := by
  rw [counted, held_sdiff_of_one others dropped, stage?_of_placed placed]
  simp only [Option.some.injEq]

theorem releases_performOnDevice {target : DeviceRef} {d : Device}
    (placed : h.device? target = some d) (action : DeviceAction) :
    let h' := (h.performOnDevice target d action).2
    h'.releases = h.releases + (h.held \ h'.held).card := by
  have hperform : (h.perform (.device target action)).2 =
      (h.performOnDevice target d action).2 := by
    simp only [perform, placed]
  cases action with
  | acquire =>
    refine releases_of_open hperform rfl rfl ?_
    simp only [performOnDevice, releases, shared_setDevice]
    exact d.releases_acquire h.shared
  | read =>
    refine releases_of_open hperform rfl rfl ?_
    simp only [performOnDevice, releases, shared_setDevice]
    exact d.releases_read h.shared
  | unacquire =>
    simp only [performOnDevice]
    split
    · next r hr =>
      have counted := Device.releases_unacquire hr
      refine releases_of_one placed ?_ (fun other => stage?_setDevice_ne r.2 placed) ?_
      · rw [releases, shared_setDevice]
        exact counted
      · rw [stage?_setDevice r.2 placed]
        rcases Device.stage_unacquire hr with ⟨idle, hsame⟩ | ⟨_, hbound⟩
        · rw [hsame]
          exact fun acquired => idle (Option.some.inj acquired)
        · rw [hbound]
          decide
    · exact releases_of_kept rfl (Finset.Subset.refl _)
  | close =>
    simp only [performOnDevice]
    split
    · next r hr =>
      have counted := Device.releases_close hr
      refine releases_of_one placed ?_ (fun other => stage?_setDevice_ne r.2 placed) ?_
      · rw [releases, shared_setDevice]
        exact counted
      · rw [stage?_setDevice r.2 placed, Device.stage_close hr]
        decide
    · exact releases_of_kept rfl (Finset.Subset.refl _)
  | setCalibration filter c =>
    exact releases_of_open hperform rfl rfl
      (by simp only [performOnDevice, releases, shared_setDevice])
  | notifyOn =>
    exact releases_of_open hperform rfl rfl
      (by simp only [performOnDevice, releases, shared_setDevice])
  | notifyOff =>
    exact releases_of_open hperform rfl rfl
      (by simp only [performOnDevice, releases, shared_setDevice])
  | notifyReset =>
    refine releases_of_open hperform rfl rfl ?_
    simp only [performOnDevice]
    split <;> rfl

/-- A manager that forgets its devices releases the pads of those that were acquired. -/
theorem releases_of_shutdown {h' : Host (Tapped τ)} {k : Nat} {m : Manager}
    (placed : h.manager? k = some m) {r : Manager × Shared (Tapped τ)}
    (returned : m.shutdown h.shared = some r) (shared : h'.shared = r.2)
    (own : ∀ n, h'.stage? (.own n) = h.stage? (.own n))
    (others : ∀ j n, j ≠ k → h'.stage? (.managed j n) = h.stage? (.managed j n))
    (gone : ∀ n, h'.stage? (.managed k n) = none) :
    h'.releases = h.releases + (h.held \ h'.held).card := by
  obtain ⟨s', hclose, rfl⟩ := Option.map_eq_some_iff.mp returned
  have hdiff : h.held \ h'.held = ((Finset.range m.devices.length).filter fun n =>
      (m.devices[n]?).map Device.lifecycle = some .acquired).image (.managed k) := by
    ext place
    cases place with
    | own n => simp [mem_held, own]
    | managed j n =>
      by_cases hjk : j = k
      · subst hjk
        have hstage : h.stage? (.managed j n) = (m.devices[n]?).map Device.lifecycle := by
          rw [stage?, device?, placed]
          rfl
        rw [Finset.mem_sdiff, mem_held, mem_held, gone, hstage, Finset.mem_image]
        constructor
        · rintro ⟨acquired, _⟩
          obtain ⟨d, hd, _⟩ := Option.map_eq_some_iff.mp acquired
          have hlt : n < m.devices.length := (List.getElem?_eq_some_iff.mp hd).1
          exact ⟨n, Finset.mem_filter.mpr ⟨Finset.mem_range.mpr hlt, acquired⟩, rfl⟩
        · rintro ⟨i, hi, hplace⟩
          cases hplace
          exact ⟨(Finset.mem_filter.mp hi).2, by decide⟩
      · simp [mem_held, others j n hjk, Ne.symm hjk]
  rw [hdiff, card_acquired, releases, shared]
  exact Manager.releases_closeEach hclose

theorem releases_performOnManager {k : Nat} {m : Manager}
    (placed : h.manager? k = some m) (action : ManagerAction) :
    let h' := (h.performOnManager k m action).2
    h'.releases = h.releases + (h.held \ h'.held).card := by
  have hperform : (h.perform (.manager k action)).2 = (h.performOnManager k m action).2 := by
    simp only [perform, placed]
  cases action with
  | discover =>
    refine releases_of_open hperform rfl rfl ?_
    show (Device.probe h.shared.session m.settings.version).2.releases = _
    rw [Device.releases_probe]
    rfl
  | openGamepad =>
    refine releases_of_open hperform rfl rfl ?_
    have hcreate := Device.releases_create h.shared m.settings.version
    simp only [performOnManager, Manager.openGamepad]
    split <;> exact hcreate
  | acquireAll =>
    exact releases_of_open hperform rfl rfl (Manager.releases_acquireEach m.devices h.shared)
  | poll => exact releases_of_open hperform rfl rfl (Manager.releases_readEach m.devices h.shared)
  | drain => exact releases_of_open hperform rfl rfl rfl
  | shutdown =>
    simp only [performOnManager]
    split
    · next r hr =>
      have hempty : r.1.devices = [] := by
        obtain ⟨_, _, rfl⟩ := Option.map_eq_some_iff.mp hr
        rfl
      have hplaced : ({ h with shared := r.2 } : Host (Tapped τ)).manager? k = some m := placed
      refine releases_of_shutdown placed hr rfl (fun n => rfl) (fun j n hjk => ?_) fun n => ?_
      · rw [stage?, stage?, device?_setManager hplaced, if_neg hjk]
        rfl
      · rw [stage?, device?_setManager hplaced, if_pos rfl, hempty]
        rfl
    · exact releases_of_kept rfl (Finset.Subset.refl _)
  | drop =>
    simp only [performOnManager]
    split
    · next r hr =>
      exact releases_of_shutdown placed hr rfl (fun n => rfl)
        (fun j n hjk => h.stage?_dropManager_ne r.2 n hjk) (h.stage?_dropManager r.2 k)
    · exact releases_of_kept rfl (Finset.Subset.refl _)

/-- An action hands over one release for each device that then no longer holds a pad. -/
theorem releases_perform (h : Host (Tapped τ)) {a : Action} (indirect : a ≠ .release) :
    let h' := (h.perform a).2
    h'.releases = h.releases + (h.held \ h'.held).card := by
  cases a with
  | connect => exact releases_of_open rfl rfl rfl (Session.releases_connect _)
  | disconnect => exact releases_of_open rfl rfl rfl (Session.releases_disconnect _)
  | acquire notify wantName =>
    exact releases_of_open rfl rfl rfl (Session.releases_acquire _ notify wantName)
  | release => exact absurd rfl indirect
  | receive => exact releases_of_open rfl rfl rfl (Session.releases_receive _)
  | drawSequence count => exact releases_of_open rfl rfl rfl (releases_drawNumbers count _)
  | discover version => exact releases_of_open rfl rfl rfl (Device.releases_discover _ version)
  | probe version => exact releases_of_open rfl rfl rfl (Device.releases_probe _ version)
  | create version =>
    refine releases_of_open rfl rfl rfl ?_
    have hcreate := Device.releases_create h.shared version
    simp only [perform]
    split <;> exact hcreate
  | drop n =>
    simp only [perform]
    split
    · exact releases_of_kept rfl (Finset.Subset.refl _)
    · next d placed =>
      split
      · next r hr =>
        refine releases_of_one placed (Device.releases_close hr)
          (fun other => h.stage?_dropDevice_ne r.2) ?_
        rw [stage?_dropDevice]
        decide
      · exact releases_of_kept rfl (Finset.Subset.refl _)
  | device target action =>
    cases hd : h.device? target with
    | none =>
      simp only [perform, hd]
      exact releases_of_kept rfl (Finset.Subset.refl _)
    | some d =>
      simp only [perform, hd]
      exact releases_performOnDevice hd action
  | manage settings => exact releases_of_open rfl rfl rfl rfl
  | manager k action =>
    cases hm : h.manager? k with
    | none =>
      rw [perform_of_absent_manager hm]
      exact releases_of_kept rfl (Finset.Subset.refl _)
    | some m =>
      simp only [perform, hm]
      exact releases_performOnManager hm action

end

/-! ## Runs -/

section

variable [Transport τ]

/-- What is held after an action is what was held before it, less what was given back, and what
bound devices have taken. -/
theorem card_held_perform (h : Host τ) (a : Action) :
    let h' := (h.perform a).2
    (h.held \ h'.held).card + h'.held.card =
      h.held.card + (h'.held.filter fun place => h.stage? place = some .bound).card := by
  intro h'
  have taken : h'.held.filter (fun place => h.stage? place = some .bound) = h'.held \ h.held := by
    ext place
    rw [Finset.mem_filter, Finset.mem_sdiff, mem_held, mem_held]
    refine and_congr_right fun hafter => ⟨fun hbound => ?_, fun hbefore => ?_⟩
    · rw [hbound]
      nofun
    · have hmoves := h.moves_perform a place
      rw [hafter] at hmoves
      generalize h.stage? place = before at hmoves hbefore
      cases hmoves with
      | rests => exact absurd rfl hbefore
      | acquired => rfl
      | closed _ _ _ last => rcases last with last | last <;> cases last
  rw [taken, Finset.card_sdiff_add_card, Nat.add_comm, Finset.card_sdiff_add_card,
    Finset.union_comm]

/-- Along a run, whatever bound devices have taken was released or is still held. -/
theorem releases_run (h : Host (Tapped τ)) {acts : List Action}
    (indirect : ∀ a ∈ acts, a ≠ .release) :
    (h.run acts).2.releases + (h.run acts).2.held.card =
      h.releases + h.held.card + h.takings acts := by
  induction acts generalizing h with
  | nil => rfl
  | cons a rest ih =>
    have hfirst := h.releases_perform (indirect a List.mem_cons_self)
    have hheld := h.card_held_perform a
    have hrest := ih (h.perform a).2 fun b hb => indirect b (List.mem_cons_of_mem a hb)
    show ((h.perform a).2.run rest).2.releases + ((h.perform a).2.run rest).2.held.card = _
    rw [hrest, takings]
    simp only at hfirst hheld
    omega

end

end Host

/-! ## Devices with nothing to give back -/

section

variable [Transport τ]

namespace Device

/-- Giving back, reading and closing leave all that the device shares as it is. -/
structure Inert (d : Device) (s : Shared τ) : Prop where
  unacquire : d.unacquire s = some (d, s)
  read : d.read s = (.error .notAcquired, d, s)
  close : ∃ d', d.close s = some (d', s)

theorem inert {d : Device} (idle : d.lifecycle ≠ .acquired) (s : Shared τ) : d.Inert s where
  unacquire := if_neg idle
  read := if_pos idle
  close := by
    by_cases closed : d.lifecycle = .closed
    · exact ⟨d, if_pos closed⟩
    · refine ⟨d.shut, ?_⟩
      rw [Device.close, if_neg closed, Device.unacquire, if_neg idle]
      rfl

theorem acquire_of_closed {d : Device} (closed : d.lifecycle = .closed) (s : Shared τ) :
    d.acquire s = (.error .closed, d, s) := by
  simp only [acquire, closed]

end Device

namespace Host

/-- The action is done to a device with nothing to give back: to one that is not acquired, or it
is an acquisition of a closed one. -/
inductive Idles (h : Host τ) : Action → Prop where
  | unheld {target : DeviceRef} {d : Device} {action : DeviceAction}
      (placed : h.device? target = some d) (idle : d.lifecycle ≠ .acquired)
      (harmless : action ∈ [.unacquire, .read, .close]) : Idles h (.device target action)
  | closed {target : DeviceRef} {d : Device} (placed : h.device? target = some d)
      (closed : d.lifecycle = .closed) : Idles h (.device target .acquire)
  | dropped {n : Nat} {d : Device} (placed : h.device? (.own n) = some d)
      (idle : d.lifecycle ≠ .acquired) : Idles h (.drop n)

/-- Such an action returns.  Transport, binding, numbering and flags are as before, no event is
handed on, and no queue changes. -/
theorem perform_of_idles {h : Host τ} {a : Action} (idles : h.Idles a) :
    (h.perform a).1.returned = true ∧ (h.perform a).2.shared = h.shared ∧ h.emitted a = [] ∧
      ∀ k, (h.perform a).2.buffer? k = h.buffer? k := by
  have buffers : ∀ k, (h.perform a).2.buffer? k = h.buffer? k := fun k =>
    buffer?_perform (by cases idles <;> rfl) (by cases idles <;> nofun)
  cases idles with
  | @unheld target d action placed idle harmless =>
    obtain ⟨hunacquire, hread, d', hclose⟩ := d.inert idle h.shared
    simp only [List.mem_cons, List.not_mem_nil, or_false] at harmless
    refine ⟨?_, ?_, ?_, buffers⟩
    · rcases harmless with rfl | rfl | rfl <;>
        simp only [perform, placed, performOnDevice, hunacquire, hread, hclose] <;> rfl
    · rcases harmless with rfl | rfl | rfl <;>
        simp only [perform, placed, performOnDevice, hunacquire, hread, hclose, shared_setDevice]
    · rcases harmless with rfl | rfl | rfl
      · rfl
      · rw [emitted_read placed, Device.emits, hread]
        rfl
      · rfl
  | @closed target d placed closed =>
    have hacquire := d.acquire_of_closed closed h.shared
    refine ⟨?_, ?_, rfl, buffers⟩
    · simp only [perform, placed, performOnDevice]
      rfl
    · simp only [perform, placed, performOnDevice, hacquire, shared_setDevice]
  | @dropped n d placed idle =>
    obtain ⟨_, _, d', hclose⟩ := d.inert idle h.shared
    refine ⟨?_, ?_, rfl, buffers⟩ <;> simp only [perform, placed, hclose]
    rfl

end Host

end

/-! ## The discipline -/

/-- Over any transport, whatever its peer answers, and in any run in which the host does not
itself release the pad past all devices:

* The record of calls changes nothing.
* Each action moves a device only as `Host.Moves` has it, and hands over one release for each
  device that it takes out of the acquired ones.
* What is done to devices with nothing to give back leaves transport, binding, numbering and
  queues as they are, wherever it is done.
* Releases and pads still held together are as many as the times a bound device became
  acquired. -/
theorem releases_only_held_pads [Transport τ] (link : τ) (acts : List Action)
    (indirect : ∀ a ∈ acts, a ≠ .release) :
    let start : Host (Tapped τ) := Host.fresh ⟨link, []⟩
    ((start.run acts).1 = ((Host.fresh link).run acts).1 ∧
      (start.run acts).2.map Tapped.link = ((Host.fresh link).run acts).2) ∧
    (∀ before a after, acts = before ++ a :: after →
      let h := (start.run before).2
      let h' := (h.perform a).2
      (∀ place, h.Moves a place (h.stage? place) (h'.stage? place)) ∧
      h'.releases = h.releases + (h.held \ h'.held).card ∧
      (h.Idles a → (h.perform a).1.returned = true ∧ h'.shared = h.shared ∧ h.emitted a = [] ∧
        ∀ k, h'.buffer? k = h.buffer? k)) ∧
    (∀ (d : Device) (s : Shared (Tapped τ)), (d.lifecycle ≠ .acquired → d.Inert s) ∧
      (d.lifecycle = .closed → d.acquire s = (.error .closed, d, s))) ∧
    (start.run acts).2.releases + (start.run acts).2.held.card = start.takings acts := by
  intro start
  refine ⟨?_, ?_,
    fun d s => ⟨fun idle => d.inert idle s, fun closed => d.acquire_of_closed closed s⟩, ?_⟩
  · have hview : (Host.fresh link).run acts =
        ((start.run acts).1, (start.run acts).2.map Tapped.link) :=
      Tapped.view.run start acts
    rw [hview]
    exact ⟨rfl, rfl⟩
  · rintro before a after rfl
    intro h h'
    have hrelease : a ≠ .release :=
      indirect a (List.mem_append_right before List.mem_cons_self)
    exact ⟨h.moves_perform a, h.releases_perform hrelease, Host.perform_of_idles⟩
  · have hrun := start.releases_run indirect
    rw [Host.held_fresh, Finset.card_empty] at hrun
    rw [hrun]
    exact Nat.zero_add _

/-- Two devices of the host and two of a manager share a session.  Pads are given back, closed
twice, dropped after closing, dropped while acquired, and shut down in two devices at once. -/
theorem releases_only_held_pads_torn_down :
    let pad := (Wire.GamepadResponse.encode ⟨7, ⟨0x0a⟩⟩ none).bytes
    let link : ScriptedPeer := { inbox := List.replicate 9 (.ok (.ofBytes pad)) }
    let acts : List Action :=
      [.create 0x0800, .create 0x0800, .manage .default, .manager 0 .openGamepad,
        .manager 0 .openGamepad, .device (.own 0) .acquire, .device (.own 0) .unacquire,
        .device (.own 0) .close, .device (.own 0) .close, .drop 0, .device (.own 1) .acquire,
        .manager 0 .acquireAll, .drop 1, .manager 0 .shutdown, .manager 0 .drop]
    let start : Host (Tapped ScriptedPeer) := Host.fresh ⟨link, []⟩
    (∀ a ∈ acts, a ≠ .release) ∧ start.takings acts = 4 ∧ (start.run acts).2.releases = 4 := by
  intro pad link acts start
  have indirect : ∀ a ∈ acts, a ≠ .release := by decide
  have htakings : start.takings acts = 4 := by decide +kernel
  have hheld : (start.run acts).2.held.card = 0 := by decide +kernel
  have haccount : (start.run acts).2.releases + (start.run acts).2.held.card = start.takings acts :=
    (releases_only_held_pads link acts indirect).2.2.2
  rw [hheld, htakings, Nat.add_zero] at haccount
  exact ⟨indirect, htakings, haccount⟩

end RemotePad
