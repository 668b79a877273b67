import RemotePad.Proofs.Host.Laws
import RemotePad.Proofs.Session.Numbering
import RemotePad.Transport.Scripted

/-!
# Events of a session

Devices of a session hand events on to whoever reads them: to the caller of a read, or into
the queue of a manager that polls.  The events of a session are all of these in the order in
which they come.

* `Host.emitted`, `Host.emissions`: the events of an action and of a run.  `Host.Delivers`
  says where the events of an action arrive.
* `Host.counted_law` and `Host.counted_run`: every operation counts its events, and so does
  every run.
* `session_numbers_events`: the events of a session are numbered by their place, from zero.
-/

namespace RemotePad

/-- The action takes no numbers past all devices. -/
def Action.leavesNumbers : Action → Bool
  | .drawSequence _ => false
  | _ => true

namespace Host

variable {τ : Type} [Transport τ]

/-! ## Events of actions -/

/-- The events of an action: those of its reads, in turn. -/
def emitted (h : Host τ) (a : Action) : List InputEvent :=
  (h.readings a).flatMap fun r => r.device.emits r.shared

/-- The events of a run of actions in order. -/
def emissions (h : Host τ) : List Action → List InputEvent
  | [] => []
  | a :: rest => h.emitted a ++ emissions (h.perform a).2 rest

/-- Events go to the caller of a read, or into the queue of a manager that polls and tells
how many there were.  Nothing else has events. -/
structure Delivers (h : Host τ) (a : Action) : Prop where
  toCaller : ∀ target result, a = .device target .read → (h.perform a).1 = .events result →
    h.emitted a = result.toOption.getD []
  toQueue : ∀ k m, a = .manager k .poll → h.manager? k = some m →
    (h.perform a).1 = .count (h.emitted a).length ∧
    ((h.perform a).2.manager? k).map Manager.queue = some (m.queue.pushAll (h.emitted a))
  silent : (∀ target, a ≠ .device target .read) → (∀ k, a ≠ .manager k .poll) → h.emitted a = []

theorem emissions_append (h : Host τ) (as bs : List Action) :
    h.emissions (as ++ bs) = h.emissions as ++ (h.run as).2.emissions bs := by
  induction as generalizing h with
  | nil => rfl
  | cons a rest ih =>
    rw [List.cons_append, emissions, ih, emissions, List.append_assoc]
    rfl

theorem emitted_read {h : Host τ} {target : DeviceRef} {d : Device}
    (placed : h.device? target = some d) :
    h.emitted (.device target .read) = d.emits h.shared := by
  rw [emitted, readings, turnOf_of_placed placed, List.flatMap_singleton]

/-- Reading in turn hands on what one read of each device hands on. -/
theorem flatMap_along_read (k n : Nat) (ds : List Device) (s : Shared τ) :
    (Turn.along (fun d s => (d.read s).2.2) k n ds s).flatMap
      (fun r => r.device.emits r.shared) = (Manager.readEach ds s).1 := by
  induction ds generalizing n s with
  | nil => rfl
  | cons d rest ih =>
    rw [Manager.readEach_cons, ← ih (n + 1)]
    rfl

theorem emitted_poll {h : Host τ} {k : Nat} {m : Manager} (placed : h.manager? k = some m) :
    h.emitted (.manager k .poll) = (Manager.readEach m.devices h.shared).1 := by
  rw [emitted, readings, turnsOf_of_placed placed, flatMap_along_read]

theorem delivers (h : Host τ) (a : Action) : h.Delivers a where
  toCaller := fun target result ha hreply => by
    subst ha
    cases hd : h.device? target with
    | none => simp [perform, hd] at hreply
    | some d =>
      simp only [perform, hd, performOnDevice, Reply.events.injEq] at hreply
      rw [emitted_read hd, Device.emits, hreply]
  toQueue := fun k m ha hm => by
    subst ha
    have hplaced := manager?_setManager (h := { h with shared := (m.poll h.shared).2.2 }) hm
      (m.poll h.shared).2.1 k
    rw [emitted_poll hm]
    simp only [perform, hm, performOnManager]
    refine ⟨rfl, ?_⟩
    rw [hplaced, if_pos rfl]
    rfl
  silent := fun hread hpoll => by
    cases a with
    | device target action =>
      cases action with
      | read => exact absurd rfl (hread target)
      | _ => rfl
    | manager k action =>
      cases action with
      | poll => exact absurd rfl (hpoll k)
      | _ => rfl
    | _ => rfl

/-! ## Counting -/

/-- Of all operations, only reads have events to note. -/
def eventNotes : Notes τ InputEvent where
  read := fun r => r.device.emits r.shared

theorem noted_eventNotes (h : Host τ) (a : Action) : h.noted eventNotes a = h.emitted a := by
  have silent : ∀ {β : Type} (xs : List β), xs.flatMap (fun _ => ([] : List InputEvent)) = [] :=
    fun xs => List.flatMap_eq_nil_iff.mpr fun _ _ => rfl
  simp [noted, eventNotes, emitted, silent]

theorem chronicle_eventNotes (h : Host τ) (acts : List Action) :
    h.chronicle eventNotes acts = h.emissions acts := by
  induction acts generalizing h with
  | nil => rfl
  | cons a rest ih => rw [chronicle, ih, noted_eventNotes, emissions]

/-- Every operation counts its events, and no other operation moves the count. -/
theorem counted_law : Law (τ := τ) (fun a => a.leavesNumbers = true) eventNotes
    (fun s es s' => Counted s.sequence es s'.sequence) where
  refl := fun s => .nil s.sequence
  trans := fun first second => first.append second
  direct := fun h a direct leaves => by
    cases a with
    | acquire notify wantName => exact .of_eq (h.shared.session.sequence_acquire notify wantName)
    | connect | disconnect | release | receive => exact .nil _
    | drawSequence count => cases leaves
    | _ => cases direct
  search := fun s version => .of_eq (Device.sequence_discover s version)
  acquire := fun r => .of_eq (r.device.sequence_acquire r.shared)
  read := fun r => r.device.counted_read r.shared
  giveBack := fun s => .nil s.sequence

theorem counted_run (h : Host τ) {acts : List Action}
    (leave : ∀ a ∈ acts, a.leavesNumbers = true) :
    Counted h.shared.session.sequence (h.emissions acts)
      (h.run acts).2.shared.session.sequence := by
  rw [← chronicle_eventNotes]
  exact counted_law.run h fun a ha _ => leave a ha

end Host

/-- Over every run in which the host draws no numbers itself, and short of `2^64` events, the
events of the session carry the numbers of their places, from zero.  The events are what is
delivered: each action hands on its own, after those of the actions before it. -/
theorem session_numbers_events {τ : Type} [Transport τ] (link : τ) (acts : List Action)
    (leave : ∀ a ∈ acts, a.leavesNumbers = true)
    (few : ((Host.fresh link).emissions acts).length < UInt64.size) :
    ((Host.fresh link).emissions acts).map (fun e => e.sequence.toNat) =
      List.range ((Host.fresh link).emissions acts).length ∧
    ∀ before a after, acts = before ++ a :: after →
      ((Host.fresh link).run before).2.Delivers a ∧
      (Host.fresh link).emissions acts =
        (Host.fresh link).emissions before ++ ((Host.fresh link).run before).2.emitted a ++
          ((Host.fresh link).run (before ++ [a])).2.emissions after := by
  constructor
  · have hcounted := (Host.fresh link).counted_run leave
    rw [hcounted.map_toNat (by simpa [Host.fresh] using few), List.range_eq_range']
    rfl
  · rintro before a after rfl
    refine ⟨Host.delivers _ a, ?_⟩
    rw [Host.emissions_append, Host.emissions, Host.run_snoc, List.append_assoc]

/-- Events of a device of the host, of one of a manager, and of the first one again under
another layout, with a report of another pad in between. -/
theorem session_numbers_events_across_devices :
    let pad := fun bits => (Wire.GamepadResponse.encode ⟨7, ⟨bits⟩⟩ none).bytes
    let report := fun id sample => (Wire.StateReport.encode { id := id, sample := sample }).bytes
    let inbox := [pad 0x0a, pad 0x0a, pad 0x0a, pad 0x0a, report 7 { lx := 100 }, report 8 { lx := 9 },
      report 7 { lx := 100, ly := 5 }, pad 0x09, report 7 { rx := 3 }]
    let link : ScriptedPeer := { inbox := inbox.map fun bytes => .ok (.ofBytes bytes) }
    let acts : List Action :=
      [.create 0x0800, .manage .default, .manager 0 .openGamepad, .device (.own 0) .acquire,
        .manager 0 .acquireAll, .device (.own 0) .read, .device (.own 0) .read, .manager 0 .poll,
        .device (.own 0) .unacquire, .device (.own 0) .acquire, .device (.own 0) .read]
    (∀ a ∈ acts, a.leavesNumbers = true) ∧ ((Host.fresh link).emissions acts).length = 4 ∧
      ((Host.fresh link).emissions acts).map (fun e => e.sequence.toNat) = List.range 4 := by
  intro pad report inbox link acts
  have leave : ∀ a ∈ acts, a.leavesNumbers = true := by decide
  have hlength : ((Host.fresh link).emissions acts).length = 4 := by decide +kernel
  have hnumbers := (session_numbers_events link acts leave (by rw [hlength]; decide)).1
  rw [hlength] at hnumbers
  exact ⟨leave, hlength, hnumbers⟩

end RemotePad
