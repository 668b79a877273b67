import RemotePad.Event

/-!
# A bounded event queue

`EventQueue` keeps the latest events.  A push onto a full queue drops the oldest
event and raises the overflow flag, which stays up until the queue is emptied by
`drain` or `clear`; `pop` leaves it alone.  A capacity of zero counts as one.
-/

namespace RemotePad

/-- The latest events, oldest first. -/
structure EventQueue where
  events : List InputEvent
  capacity : Nat
  /-- An event was dropped since the queue was last emptied. -/
  overflowed : Bool
  capacity_pos : 0 < capacity
  length_le : events.length ≤ capacity
  deriving Repr, DecidableEq

namespace EventQueue

/-- The empty queue. -/
def new (capacity : Nat) : EventQueue where
  events := []
  capacity := max capacity 1
  overflowed := false
  capacity_pos := by omega
  length_le := Nat.zero_le _

/-- Adds the latest event; a full queue loses its oldest one. -/
def push (q : EventQueue) (e : InputEvent) : EventQueue :=
  if h : q.events.length = q.capacity then
    { q with
      events := q.events.tail ++ [e]
      overflowed := true
      length_le := by
        have := q.capacity_pos
        simp
        omega }
  else
    { q with
      events := q.events ++ [e]
      length_le := by
        have := q.length_le
        simp
        omega }

/-- Adds events one after the other. -/
def pushAll (q : EventQueue) (events : List InputEvent) : EventQueue :=
  events.foldl push q

/-- Takes the oldest event. -/
def pop (q : EventQueue) : Option InputEvent × EventQueue :=
  (q.events.head?,
    { q with
      events := q.events.tail
      length_le := by
        have := q.length_le
        simp
        omega })

/-- The oldest event. -/
def peek (q : EventQueue) : Option InputEvent :=
  q.events.head?

/-- Empties the queue. -/
def clear (q : EventQueue) : EventQueue :=
  { q with events := [], overflowed := false, length_le := Nat.zero_le _ }

/-- Takes all events, oldest first. -/
def drain (q : EventQueue) : List InputEvent × EventQueue :=
  (q.events, q.clear)

/-! ## What the operations do to the list of events -/

theorem events_push (q : EventQueue) (e : InputEvent) :
    (q.push e).events =
      (if q.events.length = q.capacity then q.events.tail else q.events) ++ [e] := by
  unfold push
  split <;> rfl

@[simp] theorem capacity_push (q : EventQueue) (e : InputEvent) :
    (q.push e).capacity = q.capacity := by
  unfold push
  split <;> rfl

theorem overflowed_push (q : EventQueue) (e : InputEvent) :
    (q.push e).overflowed = (q.overflowed || decide (q.events.length = q.capacity)) := by
  unfold push
  split
  · next h => simp [h]
  · next h => simp [h]

@[simp] theorem capacity_pushAll (q : EventQueue) (events : List InputEvent) :
    (q.pushAll events).capacity = q.capacity := by
  induction events generalizing q with
  | nil => rfl
  | cons e rest ih => exact (ih (q.push e)).trans (capacity_push q e)

end EventQueue

end RemotePad
