import RemotePad.Proofs.Host.Emissions

/-!
# Numbers that a session hands out

A session counts for everybody: events take its numbers, and the host may draw some for
itself.

* `Consecutive n ns m`: the numbers follow one another from `n` on, and `m` is the next one.
* `Host.handedOut`: all numbers handed out in a run, in order.  From a new session these are
  0, 1, 2 and so on (`handedOut_fresh`).
* `emissions_sublist`: the events of a run take their numbers from them, in order.  As long
  as the numbers last, events in order have rising numbers (`pairwise_lt_of_sublist_range`).
-/

namespace RemotePad

/-! ## Numbers one after the other -/

/-- Numbers that follow one another, from a first one to the next free one. -/
inductive Consecutive : UInt64 → List UInt64 → UInt64 → Prop where
  | nil (n : UInt64) : Consecutive n [] n
  | cons {n m : UInt64} {ns : List UInt64} (rest : Consecutive (n + 1) ns m) :
      Consecutive n (n :: ns) m

namespace Consecutive

theorem of_eq {n m : UInt64} (h : m = n) : Consecutive n [] m := by
  rw [h]
  exact .nil n

theorem append {n m k : UInt64} {ns ms : List UInt64} (h : Consecutive n ns m)
    (h' : Consecutive m ms k) : Consecutive n (ns ++ ms) k := by
  induction h with
  | nil => exact h'
  | cons _ ih => exact .cons (ih h')

/-- Each number is as far from the first one as its place says. -/
theorem eq_map_range {n m : UInt64} {ns : List UInt64} (h : Consecutive n ns m) :
    ns = (List.range ns.length).map fun i => n + UInt64.ofNat i := by
  induction h with
  | nil => rfl
  | @cons n m ns rest ih =>
    have hnext : ∀ i, n + UInt64.ofNat (i + 1) = n + 1 + UInt64.ofNat i := fun i => by
      rw [Nat.add_comm i 1, UInt64.ofNat_add, ← UInt64.add_assoc]
      rfl
    have hzero : n + UInt64.ofNat 0 = n := UInt64.add_zero n
    have hrest : (List.range ns.length).map ((fun i => n + UInt64.ofNat i) ∘ Nat.succ) = ns := by
      simp only [Function.comp_def, Nat.succ_eq_add_one, hnext]
      exact ih.symm
    rw [List.length_cons, List.range_succ_eq_map, List.map_cons, List.map_map, hzero, hrest]

end Consecutive

theorem Counted.consecutive {n m : UInt64} {es : List InputEvent} (h : Counted n es m) :
    Consecutive n (es.map (·.sequence)) m := by
  induction h with
  | nil n => exact .nil n
  | cons _ ih => exact .cons ih

/-- Numbers below `2 ^ 64`, in order, rise. -/
theorem pairwise_lt_of_sublist_range {n : Nat} {ns : List UInt64}
    (h : ns.Sublist ((List.range n).map UInt64.ofNat)) (few : n ≤ UInt64.size) :
    ns.Pairwise (· < ·) := by
  refine List.Pairwise.sublist h (List.pairwise_map.mpr ?_)
  refine List.pairwise_lt_range.imp_of_mem fun {i j} hi hj hij => ?_
  have hsmall : ∀ k ∈ List.range n, (UInt64.ofNat k).toNat = k := fun k hk =>
    UInt64.toNat_ofNat_of_lt' (Nat.lt_of_lt_of_le (List.mem_range.mp hk) few)
  rw [UInt64.lt_iff_toNat_lt, hsmall i hi, hsmall j hj]
  exact hij

namespace Host

variable {τ : Type} [Transport τ]

/-! ## Numbers of a run -/

omit [Transport τ] in
theorem consecutive_drawNumbers (count : Nat) (s : Session τ) :
    Consecutive s.sequence (drawNumbers count s).1 (drawNumbers count s).2.sequence := by
  induction count generalizing s with
  | zero => exact .nil s.sequence
  | succ count ih => exact .cons (ih s.nextSequence.2)

/-- Reads number their events, and the host draws numbers. -/
def numberNotes : Notes τ UInt64 where
  direct := fun s a =>
    match a with
    | .drawSequence count => (drawNumbers count s).1
    | _ => []
  read := fun r => (r.device.emits r.shared).map (·.sequence)

/-- Every operation hands out the next numbers. -/
theorem consecutive_law : Law (τ := τ) (fun _ => True) numberNotes
    (fun s ns s' => Consecutive s.sequence ns s'.sequence) where
  refl := fun s => .nil s.sequence
  trans := fun first second => first.append second
  direct := fun h a direct _ => by
    cases a with
    | acquire notify wantName => exact .of_eq (h.shared.session.sequence_acquire notify wantName)
    | connect | disconnect | release | receive => exact .nil _
    | drawSequence count => exact consecutive_drawNumbers count h.shared.session
    | _ => cases direct
  search := fun s version => .of_eq (Device.sequence_discover s version)
  acquire := fun r => .of_eq (r.device.sequence_acquire r.shared)
  read := fun r => (r.device.counted_read r.shared).consecutive
  giveBack := fun s => .nil s.sequence

/-- The numbers that the session hands out in a run. -/
def handedOut (h : Host τ) (acts : List Action) : List UInt64 :=
  h.chronicle numberNotes acts

/-- A new session counts from zero. -/
theorem handedOut_fresh (link : τ) (acts : List Action) :
    (fresh link).handedOut acts =
      (List.range ((fresh link).handedOut acts).length).map UInt64.ofNat := by
  have hrun : Consecutive 0 ((fresh link).handedOut acts)
      ((fresh link).run acts).2.shared.session.sequence :=
    consecutive_law.run (fresh link) fun _ _ _ => trivial
  have hzero : (fun i => (0 : UInt64) + UInt64.ofNat i) = UInt64.ofNat :=
    funext fun i => UInt64.zero_add _
  rw [← hzero]
  exact hrun.eq_map_range

/-- The events of an action take their numbers in order. -/
theorem emitted_sublist (h : Host τ) (a : Action) :
    ((h.emitted a).map (·.sequence)).Sublist (h.noted numberNotes a) := by
  rw [emitted, List.map_flatMap]
  exact List.sublist_append_right _ _

/-- So do the events of a run. -/
theorem emissions_sublist (h : Host τ) (acts : List Action) :
    ((h.emissions acts).map (·.sequence)).Sublist (h.handedOut acts) := by
  induction acts generalizing h with
  | nil => exact List.Sublist.refl []
  | cons a rest ih =>
    rw [emissions, List.map_append]
    exact (h.emitted_sublist a).append (ih (h.perform a).2)

end Host

end RemotePad
