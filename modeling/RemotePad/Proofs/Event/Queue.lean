import Mathlib.Data.List.DropRight
import RemotePad.Event.Queue

/-!
# What a bounded queue remembers

A queue that is only pushed onto is compared with the log of all that was pushed.

* `EventQueue.Holds`: the queue has the latest events of the log, as many as it has room
  for, and its flag says whether the log has more.
* `Holds.new` and `Holds.clear`: an emptied queue holds the empty log.  `Holds.push` and
  `Holds.pushAll`: what is pushed comes at the end of the log.
-/

namespace RemotePad

namespace EventQueue

/-- The queue has the latest events of the log, and tells whether earlier ones are gone. -/
structure Holds (q : EventQueue) (log : List InputEvent) : Prop where
  events_eq : q.events = log.rtake q.capacity
  overflowed_eq : q.overflowed = decide (q.capacity < log.length)

theorem length_rtake {α : Type} (n : Nat) (xs : List α) : (xs.rtake n).length = min n xs.length := by
  rw [List.rtake, List.length_drop]
  omega

namespace Holds

theorem new (capacity : Nat) : (EventQueue.new capacity).Holds [] :=
  ⟨(List.rtake_nil _).symm, rfl⟩

theorem clear (q : EventQueue) : q.clear.Holds [] := ⟨(List.rtake_nil _).symm, rfl⟩

variable {q : EventQueue} {log : List InputEvent}

/-- The queue is full exactly when the log is as long as that. -/
theorem full_iff (h : q.Holds log) : q.events.length = q.capacity ↔ q.capacity ≤ log.length := by
  rw [h.events_eq, length_rtake]
  omega

theorem push (h : q.Holds log) (e : InputEvent) : (q.push e).Holds (log ++ [e]) := by
  obtain ⟨n, hn⟩ : ∃ n, q.capacity = n + 1 := ⟨q.capacity - 1, by have := q.capacity_pos; omega⟩
  constructor
  · rw [events_push, capacity_push, hn, List.rtake_concat_succ]
    by_cases hfull : q.events.length = q.capacity
    · rw [if_pos (hfull.trans hn)]
      -- the oldest of the latest events makes room
      have hlong := h.full_iff.mp hfull
      rw [h.events_eq, hn, List.rtake, List.rtake, List.tail_drop]
      congr 2
      omega
    · rw [if_neg (hn ▸ hfull)]
      have hshort : log.length ≤ n := by
        have := mt h.full_iff.mpr hfull
        omega
      have hall : ∀ k, log.length ≤ k → log.rtake k = log := fun k hk => by
        rw [List.rtake, Nat.sub_eq_zero_of_le hk, List.drop_zero]
      rw [h.events_eq, hall n hshort, hall q.capacity (by omega)]
  · have hover : q.capacity < (log ++ [e]).length ↔
        q.capacity < log.length ∨ q.events.length = q.capacity := by
      rw [h.full_iff, List.length_append, List.length_singleton]
      omega
    rw [overflowed_push, capacity_push, h.overflowed_eq, ← Bool.decide_or]
    exact decide_eq_decide.mpr hover.symm

theorem pushAll (h : q.Holds log) (es : List InputEvent) : (q.pushAll es).Holds (log ++ es) := by
  induction es generalizing q log with
  | nil => rwa [List.append_nil]
  | cons e rest ih =>
    have hrest := ih (h.push e)
    rwa [List.append_assoc] at hrest

end Holds

end EventQueue

end RemotePad
