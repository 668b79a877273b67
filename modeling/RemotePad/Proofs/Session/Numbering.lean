import RemotePad.Manager
import RemotePad.Proofs.Device.Lifecycle

/-!
# How a session numbers events

A session hands out the numbers of events by counting up.

* `Counted n es m`: the events are numbered one after the other from `n` on, and `m` is the
  number of the next one.  Short of the end of the numbers these are consecutive naturals
  (`Counted.map_toNat`).
* `sequence_…`: no operation but a read moves the count.
* `counted_read`: a read counts exactly the events that it hands on.
-/

namespace RemotePad

/-! ## Counted events -/

/-- Events numbered one after the other, from a first number to the next free one. -/
inductive Counted : UInt64 → List InputEvent → UInt64 → Prop where
  | nil (n : UInt64) : Counted n [] n
  | cons {e : InputEvent} {rest : List InputEvent} {m : UInt64}
      (counted : Counted (e.sequence + 1) rest m) : Counted e.sequence (e :: rest) m

namespace Counted

theorem of_eq {n m : UInt64} (h : m = n) : Counted n [] m := by
  rw [h]
  exact .nil n

theorem append {n m k : UInt64} {es fs : List InputEvent} (h : Counted n es m)
    (h' : Counted m fs k) : Counted n (es ++ fs) k := by
  induction h with
  | nil => exact h'
  | cons _ ih => exact .cons (ih h')

/-- As long as the numbers last, they are the naturals from the first one on. -/
theorem map_toNat {n m : UInt64} {es : List InputEvent} (h : Counted n es m)
    (few : n.toNat + es.length < UInt64.size) :
    es.map (fun e => e.sequence.toNat) = List.range' n.toNat es.length := by
  induction h with
  | nil => rfl
  | @cons e rest m counted ih =>
    have hlength : (e :: rest).length = rest.length + 1 := rfl
    have hnext : (e.sequence + 1).toNat = e.sequence.toNat + 1 := by
      rw [UInt64.toNat_add]
      exact Nat.mod_eq_of_lt (by rw [hlength] at few; simp only [UInt64.size] at few; simp; omega)
    rw [List.map_cons, ih (by rw [hnext]; omega), hnext, hlength, List.range'_succ]

end Counted

theorem counted_numbered (changes : List Change) (n : UInt64) :
    Counted n (numbered countUp changes n).1 (numbered countUp changes n).2 := by
  induction changes generalizing n with
  | nil => exact .nil n
  | cons c rest ih => exact .cons (e := { c with sequence := n }) (ih (n + 1))

/-! ## Operations that do not count -/

variable {τ : Type} [Transport τ]

theorem Session.sequence_request (s : Session τ) (notify wantName : Bool) :
    (s.request notify wantName).2.sequence = s.sequence := by
  unfold request
  simp only
  split
  · rfl
  · split <;> rfl

theorem Session.sequence_acquire (s : Session τ) (notify wantName : Bool) :
    (s.acquire notify wantName).2.sequence = s.sequence := by
  have hrequest := s.sequence_request notify wantName
  unfold acquire
  simp only
  split <;> exact hrequest

namespace Device

theorem sequence_discover (s : Session τ) (version : UInt32) :
    (discover s version).2.sequence = s.sequence := by
  have hacquire := s.connect.2.sequence_acquire false true
  unfold discover
  simp only
  split
  · rfl
  · split <;> exact hacquire

theorem sequence_requestInput (s : Session τ) :
    (requestInput s).2.sequence = s.sequence := by
  unfold requestInput
  cases s.isOpen with
  | true => exact s.sequence_acquire true false
  | false =>
    simp only [Bool.false_eq_true, if_false]
    cases s.connect.1 with
    | error e => rfl
    | ok _ => exact s.connect.2.sequence_acquire true false

theorem sequence_acquire (d : Device) (s : Shared τ) :
    (d.acquire s).2.2.session.sequence = s.session.sequence := by
  have hrequest := sequence_requestInput s.session
  unfold acquire
  split
  · rfl
  · rfl
  · simp only
    split <;> exact hrequest

end Device

/-! ## Reads -/

/-- The events that a read hands on. -/
def Device.emits (d : Device) (s : Shared τ) : List InputEvent :=
  (d.read s).1.toOption.getD []

omit [Transport τ] in
theorem Device.counted_accept (d : Device) (report : Wire.StateReport) (s : Shared τ) :
    Counted s.session.sequence (d.accept report s).1
      (d.accept report s).2.2.session.sequence := by
  unfold accept
  split
  · simp only [Tracker.apply_nextSequence]
    exact counted_numbered _ _
  · exact .nil _

theorem Device.counted_read (d : Device) (s : Shared τ) :
    Counted s.session.sequence (d.emits s) (d.read s).2.2.session.sequence := by
  unfold emits
  rcases d.read_cases s with ⟨_, hread⟩ | ⟨_, _, s', hs, hread⟩ | ⟨_, report, _, hread⟩
  · rw [hread]
    exact .nil _
  · rw [hread]
    rcases hs with rfl | rfl <;> exact .nil _
  · rw [hread]
    exact d.counted_accept report { s with session := s.session.receive.2 }

/-- One read of each device hands on what the devices hand on, in order. -/
theorem Manager.readEach_cons (d : Device) (rest : List Device) (s : Shared τ) :
    (readEach (d :: rest) s).1 = d.emits s ++ (readEach rest (d.read s).2.2).1 := by
  simp only [readEach, Device.emits]
  cases (d.read s).1 <;> rfl

end RemotePad
