import RemotePad.Proofs.Event.Queue
import RemotePad.Proofs.Host.HandedOut

/-!
# What the queue of a manager holds

A manager polls its devices into a queue.  Between one emptying and the next, the queue is
compared with everything that was polled.

* `Host.buffer?` is the queue of the manager in a place, with its settings.
  `buffer?_perform`: nothing but polling, draining, shutting down and dropping that
  manager changes it.
* `Polled` is what a manager polled since it was made or last emptied, `Host.polledSince`
  keeps account of it along a run.
* `Buffered`: a queue holds the latest of these events, as many as it has room for.
  `accounts_perform` and `accounts_run`: this is so after every action and every run.
* `manager_buffers_polled`: what a manager has buffered, what it tells, and what it hands over.
-/

namespace RemotePad

/-! ## Queues of managers -/

/-- The action is not about the queue of manager `k`. -/
def Action.spares (k : Nat) : Action → Bool
  | .manager j .poll | .manager j .drain | .manager j .shutdown | .manager j .drop => j ≠ k
  | _ => true

/-- The action makes a manager. -/
def Action.manages : Action → Bool
  | .manage _ => true
  | _ => false

/-- The call came back. -/
def Reply.returned : Reply → Bool
  | .blocked => false
  | _ => true

/-- How many events a poll told of. -/
def Reply.told : Reply → Nat
  | .count n => n
  | _ => 0

namespace Host

variable {τ : Type}

/-- Settings and queue of the manager in a place. -/
def buffer? (h : Host τ) (k : Nat) : Option (Settings × EventQueue) :=
  (h.manager? k).map fun m => (m.settings, m.queue)

theorem buffer?_of_placed {h : Host τ} {k : Nat} {m : Manager} (placed : h.manager? k = some m) :
    h.buffer? k = some (m.settings, m.queue) := by
  rw [buffer?, placed]
  rfl

theorem buffer?_setManager {h : Host τ} {j : Nat} {old : Manager}
    (placed : h.manager? j = some old) (m : Manager) (k : Nat) :
    (h.setManager m j).buffer? k = if k = j then some (m.settings, m.queue) else h.buffer? k := by
  rw [buffer?, manager?_setManager placed]
  split <;> rfl

theorem buffer?_setManager_self {h : Host τ} {k : Nat} {old : Manager}
    (placed : h.manager? k = some old) (m : Manager) :
    (h.setManager m k).buffer? k = some (m.settings, m.queue) := by
  rw [buffer?_setManager placed, if_pos rfl]

theorem buffer?_setManager_ne {h : Host τ} {j k : Nat} {old : Manager}
    (placed : h.manager? j = some old) (m : Manager) (other : k ≠ j) :
    (h.setManager m j).buffer? k = h.buffer? k := by
  rw [buffer?_setManager placed, if_neg other]

/-- A manager whose devices have changed has the queue that it had. -/
theorem buffer?_setManager_same {h : Host τ} {j : Nat} {old : Manager}
    (placed : h.manager? j = some old) (m : Manager) (settings : m.settings = old.settings)
    (queue : m.queue = old.queue) (k : Nat) : (h.setManager m j).buffer? k = h.buffer? k := by
  by_cases hkj : k = j
  · subst hkj
    rw [buffer?_setManager_self placed, buffer?_of_placed placed, settings, queue]
  · exact buffer?_setManager_ne placed m hkj

theorem buffer?_setDevice (h : Host τ) (d : Device) (target : DeviceRef) (k : Nat) :
    (h.setDevice d target).buffer? k = h.buffer? k := by
  cases target with
  | own n => rfl
  | managed j n =>
    simp only [setDevice]
    cases hm : h.manager? j with
    | none => rfl
    | some m =>
      exact buffer?_setManager_same hm { m with devices := m.devices.set n d } rfl rfl k

theorem buffer?_dropManager (h : Host τ) (s : Shared τ) (j k : Nat) :
    ({ h with shared := s, managers := h.managers.set j none } : Host τ).buffer? k =
      if k = j then none else h.buffer? k := by
  by_cases hkj : k = j
  · subst hkj
    rw [if_pos rfl, buffer?, manager?, List.getElem?_set_self']
    cases h.managers[k]? <;> rfl
  · rw [if_neg hkj, buffer?, manager?, List.getElem?_set_ne (Ne.symm hkj)]
    rfl

theorem buffer?_manage (h : Host τ) (settings : Settings) (k : Nat) :
    ({ h with managers := h.managers ++ [some (.new settings)] } : Host τ).buffer? k =
      if k = h.managers.length then some (settings, .new settings.queueCapacity.toNat)
      else h.buffer? k := by
  by_cases hnew : k = h.managers.length
  · subst hnew
    rw [if_pos rfl, buffer?, manager?, List.getElem?_append_right (Nat.le_refl _), Nat.sub_self]
    rfl
  · rw [if_neg hnew]
    by_cases hold : k < h.managers.length
    · rw [buffer?, manager?, List.getElem?_append_left hold]
      rfl
    · have hlength : (h.managers ++ [some (Manager.new settings)]).length ≤ k := by
        rw [List.length_append, List.length_singleton]
        omega
      rw [buffer?, manager?, buffer?, manager?, List.getElem?_eq_none hlength,
        List.getElem?_eq_none (Nat.le_of_not_lt hold)]

variable [Transport τ]

/-! ## Actions that spare a queue -/

theorem buffer?_performOnDevice (h : Host τ) (target : DeviceRef) (d : Device)
    (action : DeviceAction) (k : Nat) :
    (h.performOnDevice target d action).2.buffer? k = h.buffer? k := by
  cases action with
  | acquire => exact buffer?_setDevice { h with shared := (d.acquire h.shared).2.2 } _ target k
  | read => exact buffer?_setDevice { h with shared := (d.read h.shared).2.2 } _ target k
  | unacquire =>
    simp only [performOnDevice]
    split
    · next r _ => exact buffer?_setDevice { h with shared := r.2 } _ target k
    · rfl
  | close =>
    simp only [performOnDevice]
    split
    · next r _ => exact buffer?_setDevice { h with shared := r.2 } _ target k
    · rfl
  | setCalibration filter c => exact buffer?_setDevice h _ target k
  | notifyOn => exact buffer?_setDevice h _ target k
  | notifyOff => exact buffer?_setDevice h _ target k
  | notifyReset =>
    simp only [performOnDevice]
    split <;> rfl

theorem buffer?_performOnManager {h : Host τ} {j k : Nat} {m : Manager}
    (placed : h.manager? j = some m) {action : ManagerAction}
    (spares : (Action.manager j action).spares k = true) :
    (h.performOnManager j m action).2.buffer? k = h.buffer? k := by
  have hother : ∀ s : Shared τ, ({ h with shared := s } : Host τ).manager? j = some m :=
    fun _ => placed
  cases action with
  | discover => rfl
  | openGamepad =>
    have hkeeps : (m.openGamepad h.shared).2.1.settings = m.settings ∧
        (m.openGamepad h.shared).2.1.queue = m.queue := by
      unfold Manager.openGamepad
      dsimp only
      split <;> exact ⟨rfl, rfl⟩
    exact buffer?_setManager_same (hother _) _ hkeeps.1 hkeeps.2 k
  | acquireAll => exact buffer?_setManager_same (hother _) (m.acquireAll h.shared).2.1 rfl rfl k
  | poll => exact buffer?_setManager_ne (hother _) _ (Ne.symm (of_decide_eq_true spares))
  | drain => exact buffer?_setManager_ne placed _ (Ne.symm (of_decide_eq_true spares))
  | shutdown =>
    simp only [performOnManager]
    split
    · exact buffer?_setManager_ne (hother _) _ (Ne.symm (of_decide_eq_true spares))
    · rfl
  | drop =>
    simp only [performOnManager]
    split
    · rw [buffer?_dropManager, if_neg (Ne.symm (of_decide_eq_true spares))]
    · rfl

/-- An action that is not about a queue leaves it alone; only a new manager has a new one. -/
theorem buffer?_perform {h : Host τ} {k : Nat} {a : Action} (spares : a.spares k = true)
    (old : a.manages = true → k ≠ h.managers.length) :
    (h.perform a).2.buffer? k = h.buffer? k := by
  cases a with
  | connect | disconnect | acquire | release | receive | drawSequence => rfl
  | discover | probe => rfl
  | create version =>
    simp only [perform]
    split <;> rfl
  | drop place =>
    simp only [perform]
    split
    · rfl
    · split <;> rfl
  | device target action =>
    simp only [perform]
    split
    · rfl
    · exact buffer?_performOnDevice h target _ action k
  | manage settings =>
    have hmanage := buffer?_manage h settings k
    rwa [if_neg (old rfl)] at hmanage
  | manager j action =>
    cases hm : h.manager? j with
    | none => rw [perform_of_absent_manager hm]
    | some m =>
      simp only [perform, hm]
      exact buffer?_performOnManager hm spares

/-! ## Actions on a queue -/

section

variable {h : Host τ} {k : Nat} {m : Manager}

/-- A poll adds its events to the queue and tells how many there were. -/
theorem perform_poll (placed : h.manager? k = some m) :
    (h.perform (.manager k .poll)).1 = .count (h.emitted (.manager k .poll)).length ∧
    (h.perform (.manager k .poll)).2.buffer? k =
      some (m.settings, m.queue.pushAll (h.emitted (.manager k .poll))) := by
  rw [emitted_poll placed]
  simp only [perform, placed, performOnManager]
  exact ⟨rfl, buffer?_setManager_self (h := { h with shared := (m.poll h.shared).2.2 }) placed _⟩

/-- Draining hands over the queue and leaves it empty. -/
theorem perform_drain (placed : h.manager? k = some m) :
    (h.perform (.manager k .drain)).1 = .drained m.queue.events ∧
    (h.perform (.manager k .drain)).2.buffer? k = some (m.settings, m.queue.clear) := by
  simp only [perform, placed, performOnManager]
  exact ⟨rfl, buffer?_setManager_self placed _⟩

/-- A shutdown that comes back leaves the queue empty. -/
theorem buffer?_shutdown (placed : h.manager? k = some m) :
    (h.perform (.manager k .shutdown)).2.buffer? k =
      if (h.perform (.manager k .shutdown)).1.returned then some (m.settings, m.queue.clear)
      else some (m.settings, m.queue) := by
  simp only [perform, placed, performOnManager, Manager.shutdown]
  cases Manager.closeEach m.devices h.shared with
  | none => exact buffer?_of_placed placed
  | some s => exact buffer?_setManager_self (h := { h with shared := s }) placed _

/-- Dropping a manager removes its queue, unless the call does not come back. -/
theorem buffer?_drop (placed : h.manager? k = some m) :
    (h.perform (.manager k .drop)).2.buffer? k = none ∨
      (h.perform (.manager k .drop)).2.buffer? k = h.buffer? k := by
  simp only [perform, placed, performOnManager]
  cases m.shutdown h.shared with
  | none => exact .inr rfl
  | some r =>
    left
    rw [buffer?_dropManager, if_pos rfl]

end

end Host

/-! ## What was polled -/

/-- The events that the polls of a manager had, in order, and how many the polls told of. -/
structure Polled where
  events : List InputEvent := []
  told : Nat := 0

namespace Host

variable {τ : Type} [Transport τ]

/-- The account of manager `k` after one more action.  It starts when the manager is made,
and again whenever its queue has been emptied. -/
def polledAfter (h : Host τ) (k : Nat) (p : Polled) (a : Action) : Polled :=
  match a with
  | .manage _ => if k = h.managers.length then {} else p
  | .manager j .poll =>
    if j = k then
      { events := p.events ++ h.emitted (.manager j .poll)
        told := p.told + (h.perform (.manager j .poll)).1.told }
    else p
  | .manager j .drain => if j = k then {} else p
  | .manager j .shutdown =>
    if j = k ∧ (h.perform (.manager j .shutdown)).1.returned then {} else p
  | _ => p

/-- The account of manager `k` after a run. -/
def polledSince (h : Host τ) (k : Nat) (p : Polled) : List Action → Polled
  | [] => p
  | a :: rest => (h.perform a).2.polledSince k (h.polledAfter k p a) rest

theorem polledAfter_sublist (h : Host τ) (k : Nat) (p : Polled) (a : Action) :
    (h.polledAfter k p a).events.Sublist (p.events ++ h.emitted a) := by
  have kept : p.events.Sublist (p.events ++ h.emitted a) := List.sublist_append_left _ _
  have forgotten : ([] : List InputEvent).Sublist (p.events ++ h.emitted a) := List.nil_sublist _
  cases a with
  | manage settings =>
    simp only [polledAfter]
    split
    exacts [forgotten, kept]
  | manager j action =>
    cases action with
    | poll =>
      simp only [polledAfter]
      split
      exacts [.refl _, kept]
    | drain =>
      simp only [polledAfter]
      split
      exacts [forgotten, kept]
    | shutdown =>
      simp only [polledAfter]
      split
      exacts [forgotten, kept]
    | _ => exact kept
  | _ => exact kept

/-- What is accounted for was emitted, in this order. -/
theorem polledSince_sublist (h : Host τ) (k : Nat) (p : Polled) (acts : List Action) :
    (h.polledSince k p acts).events.Sublist (p.events ++ h.emissions acts) := by
  induction acts generalizing h p with
  | nil => exact List.sublist_append_left p.events []
  | cons a rest ih =>
    rw [emissions, ← List.append_assoc]
    exact (ih (h.perform a).2 (h.polledAfter k p a)).trans
      ((h.polledAfter_sublist k p a).append_right _)

theorem polledAfter_of_spares {h : Host τ} {k : Nat} {a : Action} (spares : a.spares k = true)
    (old : a.manages = true → k ≠ h.managers.length) (p : Polled) :
    h.polledAfter k p a = p := by
  cases a with
  | manage settings => exact if_neg (old rfl)
  | manager j action =>
    cases action with
    | poll | drain => exact if_neg (of_decide_eq_true spares)
    | shutdown => exact if_neg fun same => of_decide_eq_true spares same.1
    | _ => rfl
  | _ => rfl

end Host

/-! ## The queue and the account -/

/-- A queue with the room that its settings ask for, against what was polled into it. -/
structure Buffered (settings : Settings) (queue : EventQueue) (p : Polled) : Prop where
  holds : queue.Holds p.events
  told : p.told = p.events.length
  capacity : queue.capacity = max settings.queueCapacity.toNat 1

namespace Buffered

theorem new (settings : Settings) :
    Buffered settings (.new settings.queueCapacity.toNat) {} :=
  ⟨.new _, rfl, rfl⟩

variable {settings : Settings} {queue : EventQueue} {p : Polled}

theorem clear (b : Buffered settings queue p) : Buffered settings queue.clear {} :=
  ⟨.clear queue, rfl, b.capacity⟩

theorem pushAll (b : Buffered settings queue p) (es : List InputEvent) :
    Buffered settings (queue.pushAll es)
      { events := p.events ++ es, told := p.told + es.length } where
  holds := b.holds.pushAll es
  told := by
    rw [b.told]
    exact List.length_append.symm
  capacity := (queue.capacity_pushAll es).trans b.capacity

end Buffered

namespace Host

variable {τ : Type} [Transport τ]

/-- The queue of manager `k`, if there is one, is the account's. -/
def Accounts (h : Host τ) (k : Nat) (p : Polled) : Prop :=
  ∀ b, h.buffer? k = some b → Buffered b.1 b.2 p

omit [Transport τ] in
theorem Accounts.of_placed {h : Host τ} {k : Nat} {m : Manager} {p : Polled}
    (accounts : h.Accounts k p) (placed : h.manager? k = some m) :
    Buffered m.settings m.queue p :=
  accounts _ (buffer?_of_placed placed)

omit [Transport τ] in
theorem Accounts.of_buffer {h : Host τ} {k : Nat} {settings : Settings} {queue : EventQueue}
    {p : Polled} (buffer : h.buffer? k = some (settings, queue))
    (buffered : Buffered settings queue p) : h.Accounts k p := by
  intro b hb
  obtain rfl := Option.some.inj (buffer.symm.trans hb)
  exact buffered

/-- Every action keeps the account. -/
theorem accounts_perform {h : Host τ} {k : Nat} {p : Polled} (accounts : h.Accounts k p)
    (a : Action) : (h.perform a).2.Accounts k (h.polledAfter k p a) := by
  have spared : a.spares k = true →
      (a.manages = true → k ≠ h.managers.length) →
      (h.perform a).2.Accounts k (h.polledAfter k p a) := fun spares old b hb => by
    rw [polledAfter_of_spares spares old]
    exact accounts b ((buffer?_perform spares old).symm.trans hb)
  have noneMade : false = true → k ≠ h.managers.length := fun made =>
    absurd made Bool.false_ne_true
  cases a with
  | manage settings =>
    by_cases hnew : k = h.managers.length
    · have hbuffer := buffer?_manage h settings k
      rw [if_pos hnew] at hbuffer
      simp only [polledAfter, if_pos hnew]
      exact .of_buffer hbuffer (.new settings)
    · exact spared rfl fun _ => hnew
  | manager j action =>
    by_cases hjk : j = k
    · subst hjk
      cases hm : h.manager? j with
      | none =>
        -- without a manager there is no queue, before or after
        intro b hb
        rw [perform_of_absent_manager hm, buffer?, hm] at hb
        cases hb
      | some m =>
        have buffered := accounts.of_placed hm
        cases action with
        | poll =>
          obtain ⟨hreply, hbuffer⟩ := perform_poll hm
          simp only [polledAfter, if_pos, hreply, Reply.told]
          exact .of_buffer hbuffer (buffered.pushAll _)
        | drain =>
          simp only [polledAfter, if_pos]
          exact .of_buffer (perform_drain hm).2 buffered.clear
        | shutdown =>
          have hbuffer := buffer?_shutdown hm
          simp only [polledAfter, true_and]
          split
          · next hreturned =>
            rw [if_pos hreturned] at hbuffer
            exact .of_buffer hbuffer buffered.clear
          · next hblocked =>
            rw [if_neg hblocked] at hbuffer
            exact .of_buffer hbuffer buffered
        | drop =>
          intro b hb
          rcases buffer?_drop hm with hgone | hkept
          · rw [hgone] at hb
            cases hb
          · exact accounts b (hkept.symm.trans hb)
        | _ => exact spared rfl noneMade
    · refine spared ?_ noneMade
      cases action with
      | poll | drain | shutdown | drop => exact decide_eq_true hjk
      | _ => rfl
  | _ => exact spared rfl noneMade

/-- So does every run. -/
theorem accounts_run {h : Host τ} {k : Nat} {p : Polled} (accounts : h.Accounts k p)
    (acts : List Action) : (h.run acts).2.Accounts k (h.polledSince k p acts) := by
  induction acts generalizing h p with
  | nil => exact accounts
  | cons a rest ih => exact ih (accounts_perform accounts a)

omit [Transport τ] in
theorem accounts_fresh (link : τ) (k : Nat) : (fresh link).Accounts k {} := nofun

end Host

/-- In every run from a new session, whatever else shares it, a manager has told of exactly
the events that it polled since it was made or last emptied.  Its queue has the latest of
them, as many as there is room for, in order, under numbers from the session's count; these
rise as long as the count does not start over.  The flag says that there were more.  Draining
hands the queue over and leaves it empty, with the flag down, and no action but a poll, a
drain, a shutdown or the end of that manager touches it. -/
theorem manager_buffers_polled {τ : Type} [Transport τ] (link : τ) (acts : List Action)
    {k : Nat} {m : Manager} (placed : ((Host.fresh link).run acts).2.manager? k = some m) :
    let h := ((Host.fresh link).run acts).2
    let polled := (Host.fresh link).polledSince k {} acts
    let numbers := (Host.fresh link).handedOut acts
    polled.told = polled.events.length ∧
    m.queue.capacity = max m.settings.queueCapacity.toNat 1 ∧
    m.queue.events = polled.events.rtake m.queue.capacity ∧
    m.queue.events.length = min polled.events.length m.queue.capacity ∧
    (m.queue.events.map (·.sequence)).Sublist ((List.range numbers.length).map UInt64.ofNat) ∧
    (numbers.length ≤ UInt64.size →
      m.queue.events.Pairwise fun e f => e.sequence < f.sequence) ∧
    (m.queue.overflowed = true ↔ m.queue.capacity < polled.events.length) ∧
    (h.perform (.manager k .drain)).1 = .drained m.queue.events ∧
    (∃ q, (h.perform (.manager k .drain)).2.buffer? k = some (m.settings, q) ∧
      q.events = [] ∧ q.overflowed = false ∧ q.capacity = m.queue.capacity) ∧
    ∀ a : Action, a.spares k = true → (h.perform a).2.buffer? k = some (m.settings, m.queue) := by
  intro h polled numbers
  have buffered : Buffered m.settings m.queue polled :=
    (Host.accounts_run (Host.accounts_fresh link k) acts).of_placed placed
  have hlatest := buffered.holds.events_eq
  have hnumbers : (m.queue.events.map (·.sequence)).Sublist
      ((List.range numbers.length).map UInt64.ofNat) := by
    rw [← Host.handedOut_fresh link acts, hlatest]
    have hemitted : (polled.events.rtake m.queue.capacity).Sublist
        ((Host.fresh link).emissions acts) :=
      (List.drop_sublist _ _).trans (Host.polledSince_sublist (Host.fresh link) k {} acts)
    exact (hemitted.map _).trans (Host.emissions_sublist (Host.fresh link) acts)
  refine ⟨buffered.told, buffered.capacity, hlatest, ?_, hnumbers, fun few => ?_, ?_,
    (Host.perform_drain placed).1, ⟨m.queue.clear, (Host.perform_drain placed).2, rfl, rfl, rfl⟩,
    fun a spares => ?_⟩
  · rw [hlatest, EventQueue.length_rtake, Nat.min_comm]
  · exact List.pairwise_map.mp (pairwise_lt_of_sublist_range hnumbers few)
  · rw [buffered.holds.overflowed_eq]
    exact decide_eq_true_iff
  · have hplace : k < h.managers.length := Host.lt_length_of_join placed
    rw [Host.buffer?_perform spares fun _ => Nat.ne_of_lt hplace]
    exact Host.buffer?_of_placed placed

/-- A queue for two events, three of which were polled; one more went to a direct reader. -/
theorem manager_buffers_polled_overflow :
    let pad := (Wire.GamepadResponse.encode ⟨7, ⟨0x0a⟩⟩ none).bytes
    let report := fun sample => (Wire.StateReport.encode { id := 7, sample := sample }).bytes
    let inbox := [pad, pad, report { lx := 100 }, report { lx := 100, ly := 5 },
      report { lx := 100, ly := 7, rx := 3 }]
    let link : ScriptedPeer := { inbox := inbox.map fun bytes => .ok (.ofBytes bytes) }
    let acts : List Action :=
      [.manage { Settings.default with queueCapacity := 2 }, .manager 0 .openGamepad,
        .manager 0 .acquireAll, .manager 0 .poll, .device (.managed 0 0) .read, .manager 0 .poll]
    ∃ m, ((Host.fresh link).run acts).2.manager? 0 = some m ∧ m.queue.capacity = 2 ∧
      ((Host.fresh link).polledSince 0 {} acts).told = 3 ∧ m.queue.events.length = 2 ∧
      m.queue.overflowed = true ∧ m.queue.events.Pairwise fun e f => e.sequence < f.sequence := by
  intro pad report inbox link acts
  obtain ⟨m, placed⟩ : ∃ m, ((Host.fresh link).run acts).2.manager? 0 = some m :=
    Option.isSome_iff_exists.mp (by decide +kernel)
  have hroom : (((Host.fresh link).run acts).2.manager? 0).map (·.queue.capacity) = some 2 := by
    decide +kernel
  have hcapacity : m.queue.capacity = 2 := by
    rw [placed] at hroom
    exact Option.some.inj hroom
  have hpolled : ((Host.fresh link).polledSince 0 {} acts).events.length = 3 := by decide +kernel
  have hnumbers : ((Host.fresh link).handedOut acts).length = 4 := by decide +kernel
  obtain ⟨told, -, -, hlength, -, rising, hflag, -⟩ := manager_buffers_polled link acts placed
  rw [hpolled, hcapacity] at hlength hflag
  refine ⟨m, placed, hcapacity, told.trans hpolled, hlength, hflag.mpr (by decide), rising ?_⟩
  rw [hnumbers]
  decide

end RemotePad
