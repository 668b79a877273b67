import Mathlib.Data.List.Induction
import RemotePad.Event.Queue

/-!
# What becomes of the events in a queue

A queue is used in any order of pushes, pops, peeks, drains and clears, and compared with the
unbounded log of all that was pushed onto it.

* `EventQueue.gone` are the events that an action makes disappear.  What is gone and what is left
  make up what was there (`gone_append`): events leave at the old end only.
* `EventQueue.departures` are the events that left during a run, each with its `Fate`, and
  `EventQueue.fates` also has those that still wait.  They are the log (`map_fst_fates`).
* `EventQueue.LostSince`: a push lost an event, and the queue was not emptied since.  That is what
  the overflow flag tells (`overflowed_run`).
* `queue_settles_log` puts it together.
-/

namespace RemotePad

/-! ## Actions and fates -/

/-- What is done with a queue. -/
inductive QueueAction where
  | push (event : InputEvent)
  | pop
  | peek
  | drain
  | clear
  deriving Repr, DecidableEq

/-- What becomes of a pushed event. -/
inductive Fate where
  /-- Handed over by a pop or a drain. -/
  | delivered
  /-- Lost to a push that found no room. -/
  | overflowed
  /-- Thrown away with all others. -/
  | cleared
  /-- Still in the queue. -/
  | waiting
  deriving Repr, DecidableEq

namespace QueueAction

/-- The event that an action adds. -/
def pushed : QueueAction → List InputEvent
  | .push e => [e]
  | _ => []

/-- What becomes of the events that the action makes disappear.  A peek leaves them waiting. -/
def fate : QueueAction → Fate
  | .push _ => .overflowed
  | .pop | .drain => .delivered
  | .peek => .waiting
  | .clear => .cleared

/-- The action takes the overflow flag down. -/
def Empties (a : QueueAction) : Prop :=
  a = .drain ∨ a = .clear

/-- All events that are pushed, in order. -/
def log (acts : List QueueAction) : List InputEvent :=
  acts.flatMap pushed

end QueueAction

namespace EventQueue

/-- The queue after an action. -/
def after (q : EventQueue) : QueueAction → EventQueue
  | .push e => q.push e
  | .pop => q.pop.2
  | .peek => q
  | .drain => q.drain.2
  | .clear => q.clear

/-- The events that an action hands over for good; a peek only shows one. -/
def delivers (q : EventQueue) : QueueAction → List InputEvent
  | .pop => q.pop.1.toList
  | .drain => q.drain.1
  | _ => []

/-- The events that are gone after an action: of those that were there and the pushed one, the
oldest, as many as are missing. -/
def gone (q : EventQueue) (a : QueueAction) : List InputEvent :=
  (q.events ++ a.pushed).take ((q.events ++ a.pushed).length - (q.after a).events.length)

/-- The queue after some actions. -/
def run (q : EventQueue) (acts : List QueueAction) : EventQueue :=
  acts.foldl after q

/-- All events that some actions hand over, in order. -/
def delivered (q : EventQueue) : List QueueAction → List InputEvent
  | [] => []
  | a :: rest => q.delivers a ++ delivered (q.after a) rest

/-- All events that left the queue, in order, and what became of them. -/
def departures (q : EventQueue) : List QueueAction → List (InputEvent × Fate)
  | [] => []
  | a :: rest => (q.gone a).map (·, a.fate) ++ departures (q.after a) rest

/-- What became of all events: first those that left, then those that still wait. -/
def fates (q : EventQueue) (acts : List QueueAction) : List (InputEvent × Fate) :=
  q.departures acts ++ (q.run acts).events.map (·, .waiting)

/-- A push lost an event, and the queue was not emptied since. -/
def LostSince (q : EventQueue) (acts : List QueueAction) : Prop :=
  ∃ before e since, acts = before ++ .push e :: since ∧
    (q.run before).gone (.push e) ≠ [] ∧ ∀ a ∈ since, ¬ a.Empties

end EventQueue

/-- The events with a fate, in the order in which they were pushed. -/
def withFate (f : Fate) (fates : List (InputEvent × Fate)) : List InputEvent :=
  (fates.filter fun entry => entry.2 = f).map Prod.fst

theorem map_fst_labelled (f : Fate) (es : List InputEvent) : (es.map (·, f)).map Prod.fst = es := by
  rw [List.map_map]
  exact List.map_id es

theorem withFate_append (f : Fate) (xs ys : List (InputEvent × Fate)) :
    withFate f (xs ++ ys) = withFate f xs ++ withFate f ys := by
  rw [withFate, List.filter_append, List.map_append]
  rfl

theorem withFate_map (f g : Fate) (es : List InputEvent) :
    withFate f (es.map (·, g)) = if g = f then es else [] := by
  by_cases h : g = f <;> simp [withFate, h, List.filter_map, Function.comp_def]

namespace EventQueue

/-! ## What an action takes away -/

variable (q : EventQueue)

/-- A full queue loses its oldest event to a push, any other loses nothing. -/
theorem gone_push (e : InputEvent) :
    q.gone (.push e) = if q.events.length = q.capacity then q.peek.toList else [] := by
  have hpos := q.capacity_pos
  unfold gone
  simp only [after, events_push, QueueAction.pushed]
  split
  · next hfull =>
    cases hq : q.events with
    | nil =>
      rw [hq] at hfull
      simp at hfull
      omega
    | cons oldest rest => simp [peek, hq]
  · simp

/-- A pop hands over the oldest event and leaves the others. -/
theorem pop_append : q.pop.1.toList ++ q.pop.2.events = q.events := by
  show q.events.head?.toList ++ q.events.tail = q.events
  cases q.events <;> rfl

/-- A peek takes nothing away, a pop or a drain what it hands over, a clear everything. -/
theorem gone_pop : q.gone .pop = q.delivers .pop := by
  cases hq : q.events <;> simp [gone, after, pop, delivers, QueueAction.pushed, hq]

theorem gone_peek : q.gone .peek = [] := by
  simp [gone, after, QueueAction.pushed]

theorem gone_drain : q.gone .drain = q.delivers .drain := by
  simp [gone, after, drain, clear, delivers, QueueAction.pushed]

theorem gone_clear : q.gone .clear = q.events := by
  simp [gone, after, clear, QueueAction.pushed]

/-- Nothing but the oldest events is ever gone. -/
theorem gone_append (a : QueueAction) :
    q.gone a ++ (q.after a).events = q.events ++ a.pushed := by
  cases a with
  | push e =>
    rw [gone_push, after, events_push, QueueAction.pushed]
    split
    · next hfull =>
      rw [peek, ← List.append_assoc]
      cases q.events <;> rfl
    · rfl
  | pop =>
    rw [gone_pop]
    exact q.pop_append.trans (List.append_nil q.events).symm
  | peek =>
    rw [gone_peek]
    exact (List.append_nil q.events).symm
  | drain => rw [gone_drain]; rfl
  | clear => rw [gone_clear]; rfl

/-- What is handed over is what is gone under that name. -/
theorem delivers_eq (a : QueueAction) :
    q.delivers a = if a.fate = .delivered then q.gone a else [] := by
  cases a with
  | pop => exact q.gone_pop.symm
  | drain => exact q.gone_drain.symm
  | push | peek | clear => rfl

/-- Nothing that is gone waits. -/
theorem fate_ne_waiting {a : QueueAction} {e : InputEvent} (he : e ∈ q.gone a) :
    a.fate ≠ .waiting := by
  cases a with
  | peek =>
    rw [gone_peek] at he
    cases he
  | push | pop | drain | clear => exact nofun

@[simp] theorem capacity_after (a : QueueAction) : (q.after a).capacity = q.capacity := by
  cases a with
  | push e => exact q.capacity_push e
  | pop | peek | drain | clear => rfl

/-- Only a push raises the flag, when it loses an event; a drain and a clear take it down. -/
theorem overflowed_after (a : QueueAction) :
    (q.after a).overflowed = true ↔
      (q.overflowed = true ∧ ¬ a.Empties) ∨ ((∃ e, a = .push e) ∧ q.gone a ≠ []) := by
  cases a with
  | push e =>
    have hlost : q.gone (.push e) ≠ [] ↔ q.events.length = q.capacity := by
      have hpos := q.capacity_pos
      rw [gone_push]
      split
      · next hfull =>
        have hsome : q.events ≠ [] := List.ne_nil_of_length_pos (by omega)
        simpa [peek, hfull] using hsome
      · next hroom => simp [hroom]
    rw [hlost, after, overflowed_push]
    simp [QueueAction.Empties]
  | pop => simp [after, pop, QueueAction.Empties]
  | peek => simp [after, QueueAction.Empties]
  | drain => simp [after, drain, clear, QueueAction.Empties]
  | clear => simp [after, clear, QueueAction.Empties]

/-! ## Runs -/

variable {q} {acts : List QueueAction}

theorem run_snoc (a : QueueAction) : q.run (acts ++ [a]) = (q.run acts).after a := by
  rw [run, List.foldl_append]
  rfl

theorem capacity_run : (q.run acts).capacity = q.capacity := by
  induction acts using List.reverseRecOn with
  | nil => rfl
  | append_singleton acts a ih => rw [run_snoc, capacity_after, ih]

/-- What left and what still waits, in this order, is what was there and what was pushed. -/
theorem map_fst_fates (q : EventQueue) (acts : List QueueAction) :
    (q.fates acts).map Prod.fst = q.events ++ QueueAction.log acts := by
  induction acts generalizing q with
  | nil => exact (map_fst_labelled .waiting q.events).trans (List.append_nil q.events).symm
  | cons a rest ih =>
    -- What the first action took stands before all that becomes of the events it left.
    have hfates : q.fates (a :: rest) = (q.gone a).map (·, a.fate) ++ (q.after a).fates rest := by
      simp only [fates, departures, run, List.foldl_cons, List.append_assoc]
    calc (q.fates (a :: rest)).map Prod.fst
        = q.gone a ++ ((q.after a).events ++ QueueAction.log rest) := by
          rw [hfates, List.map_append, map_fst_labelled, ih]
      _ = q.events ++ a.pushed ++ QueueAction.log rest := by
          rw [← List.append_assoc, gone_append]
      _ = q.events ++ QueueAction.log (a :: rest) := List.append_assoc _ _ _

/-- What the last action hands over comes after all that was handed over before it. -/
theorem delivered_snoc (q : EventQueue) (a : QueueAction) :
    q.delivered (acts ++ [a]) = q.delivered acts ++ (q.run acts).delivers a := by
  induction acts generalizing q with
  | nil => exact List.append_nil _
  | cons b rest ih =>
    rw [List.cons_append, delivered, ih, delivered, List.append_assoc]
    rfl

/-- The departures under that name are what was handed over. -/
theorem withFate_delivered_departures (q : EventQueue) (acts : List QueueAction) :
    withFate .delivered (q.departures acts) = q.delivered acts := by
  induction acts generalizing q with
  | nil => rfl
  | cons a rest ih => rw [departures, delivered, withFate_append, withFate_map, ih, delivers_eq]

/-- Whatever left does not wait. -/
theorem withFate_waiting_departures (q : EventQueue) (acts : List QueueAction) :
    withFate .waiting (q.departures acts) = [] := by
  induction acts generalizing q with
  | nil => rfl
  | cons a rest ih =>
    rw [departures, withFate_append, withFate_map, ih, List.append_nil]
    split
    · next hwaits =>
      exact List.eq_nil_iff_forall_not_mem.mpr fun e he => q.fate_ne_waiting he hwaits
    · rfl

theorem departures_append (q : EventQueue) (acts more : List QueueAction) :
    q.departures (acts ++ more) = q.departures acts ++ (q.run acts).departures more := by
  induction acts generalizing q with
  | nil => rfl
  | cons a rest ih =>
    rw [List.cons_append, departures, ih, departures, List.append_assoc]
    rfl

/-- One more action: an older loss stays, unless the queue is emptied, and a push may be a new
one. -/
theorem lostSince_snoc (a : QueueAction) :
    q.LostSince (acts ++ [a]) ↔
      (q.LostSince acts ∧ ¬ a.Empties) ∨ ((∃ e, a = .push e) ∧ (q.run acts).gone a ≠ []) := by
  constructor
  · rintro ⟨before, e, since, hsplit, hlost, hkept⟩
    -- The push that lost an event is the last action itself, or one before it.
    rcases List.eq_nil_or_concat since with rfl | ⟨since, b, rfl⟩
    · obtain ⟨rfl, rfl⟩ := List.append_inj' hsplit rfl |>.imp id List.singleton_inj.mp
      exact Or.inr ⟨⟨e, rfl⟩, hlost⟩
    · have hsame : acts ++ [a] = (before ++ .push e :: since) ++ [b] := by simpa using hsplit
      obtain ⟨rfl, rfl⟩ := List.append_inj' hsame rfl |>.imp id List.singleton_inj.mp
      have hempties : ¬ a.Empties := hkept a (by simp)
      exact Or.inl ⟨⟨before, e, since, rfl, hlost, fun b hb => hkept b (by simp [hb])⟩, hempties⟩
  · rintro (⟨⟨before, e, since, rfl, hlost, hkept⟩, hempties⟩ | ⟨⟨e, rfl⟩, hlost⟩)
    · refine ⟨before, e, since ++ [a], by simp, hlost, fun b hb => ?_⟩
      rcases List.mem_append.mp hb with hold | hnew
      · exact hkept b hold
      · rwa [List.mem_singleton.mp hnew]
    · exact ⟨acts, e, [], rfl, hlost, nofun⟩

/-- The flag tells of losses since the queue was last emptied. -/
theorem overflowed_run (down : q.overflowed = false) :
    (q.run acts).overflowed = true ↔ q.LostSince acts := by
  induction acts using List.reverseRecOn with
  | nil => simp [run, down, LostSince]
  | append_singleton acts a ih => rw [run_snoc, overflowed_after, lostSince_snoc, ih]

end EventQueue

/-! ## The queue and the log -/

/-- A new queue after any actions, against the log of all events that were pushed onto it.

* It has at most `max capacity 1` events.
* Every entry of the log has one fate, and what left the queue keeps its fate ever after.  The
  delivered entries are what pops and drains handed over, in the order of the log; the waiting
  entries are the queue, and they are the end of the log.
* A push takes away the oldest event of a queue that already has `max capacity 1` events, and
  nothing of any other.
* A pop hands over the oldest waiting event and leaves the others, a drain hands over all of them
  in order and leaves none.  A peek shows what a pop would hand over, and a clear leaves none.
* The flag says that a push took an event away after the last drain or clear. -/
theorem queue_settles_log (capacity : Nat) (acts : List QueueAction) :
    let start := EventQueue.new capacity
    let q := start.run acts
    let log := QueueAction.log acts
    q.events.length ≤ max capacity 1 ∧
    (start.fates acts).map Prod.fst = log ∧
    (∀ more, start.departures acts <+: start.departures (acts ++ more)) ∧
    withFate .delivered (start.fates acts) = start.delivered acts ∧
    (start.delivered acts).Sublist log ∧
    withFate .waiting (start.fates acts) = q.events ∧ q.events <:+ log ∧
    (∀ e, q.gone (.push e) ++ (q.push e).events = q.events ++ [e] ∧
      q.gone (.push e) = if q.events.length = max capacity 1 then q.peek.toList else []) ∧
    (q.pop.1 = q.events.head? ∧ q.pop.1.toList ++ q.pop.2.events = q.events ∧
      start.delivered (acts ++ [.pop]) = start.delivered acts ++ q.pop.1.toList) ∧
    (q.drain.1 = q.events ∧ q.drain.2.events = [] ∧
      start.delivered (acts ++ [.drain]) = start.delivered acts ++ q.events) ∧
    q.peek = q.events.head? ∧ q.clear.events = [] ∧
    (q.overflowed = true ↔ ∃ before e since, acts = before ++ .push e :: since ∧
      (start.run before).gone (.push e) ≠ [] ∧ ∀ a ∈ since, a ≠ .drain ∧ a ≠ .clear) := by
  intro start q log
  have hcapacity : q.capacity = max capacity 1 := EventQueue.capacity_run
  have hlog : (start.fates acts).map Prod.fst = log := start.map_fst_fates acts
  have hdelivered : withFate .delivered (start.fates acts) = start.delivered acts := by
    rw [EventQueue.fates, withFate_append, start.withFate_delivered_departures, withFate_map,
      if_neg (by decide), List.append_nil]
  have hwaiting : withFate .waiting (start.fates acts) = q.events := by
    rw [EventQueue.fates, withFate_append, start.withFate_waiting_departures, withFate_map,
      if_pos rfl, List.nil_append]
  refine ⟨hcapacity ▸ q.length_le, hlog, fun more => ?_, hdelivered, ?_, hwaiting, ?_,
    fun e => ⟨q.gone_append (.push e), hcapacity ▸ q.gone_push e⟩,
    ⟨rfl, q.pop_append, start.delivered_snoc .pop⟩, ⟨rfl, rfl, start.delivered_snoc .drain⟩,
    rfl, rfl, ?_⟩
  · rw [start.departures_append]
    exact List.prefix_append _ _
  · rw [← hlog, ← hdelivered]
    exact List.filter_sublist.map Prod.fst
  · rw [← hlog, EventQueue.fates, List.map_append, map_fst_labelled]
    exact List.suffix_append _ _
  · rw [EventQueue.overflowed_run rfl, EventQueue.LostSince]
    simp only [QueueAction.Empties, not_or]

/-- Two events fit.  The third push loses the first event, a pop hands the second one over, and
the flag stays up. -/
example :
    let event := fun n : UInt64 => (⟨⟨.button 0, 4, buttonPressed⟩, n⟩ : InputEvent)
    let start := EventQueue.new 2
    let acts := [.push (event 1), .push (event 2), .push (event 3), .pop, .peek]
    start.fates acts =
        [(event 1, .overflowed), (event 2, .delivered), (event 3, .waiting)] ∧
      (start.run acts).overflowed = true := by decide

end RemotePad
