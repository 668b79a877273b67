import RemotePad.Session
import RemotePad.Tracker

/-!
# Runs of a tracker

A device hands samples to its tracker one after the other, each under the layout and
the calibrations of that moment.  `Tracker.applyAll` is such a run: the tracker is
passed on, the events are joined, and all numbers come from one source.

* A run over a joined list is one run after the other (`applyAll_append`).
* A source that only carries a counter along counts like the counter itself
  (`apply_of_simulation`); a session is such a source (`apply_nextSequence`).
-/

namespace RemotePad

/-! ## Runs -/

/-- A sample, and what it is interpreted with. -/
structure Observation where
  layout : Layout
  table : CalibrationTable
  sample : Sample

/-- Samples under one layout and one table. -/
def Layout.observations (l : Layout) (table : CalibrationTable) (samples : List Sample) :
    List Observation :=
  samples.map fun x => ⟨l, table, x⟩

theorem Layout.observations_append (l : Layout) (table : CalibrationTable) (xs ys : List Sample) :
    l.observations table (xs ++ ys) = l.observations table xs ++ l.observations table ys :=
  List.map_append

/-- Applies observations in order; the events of each follow those of the ones before. -/
def Tracker.applyAll {σ : Type} (next : σ → UInt64 × σ) :
    List Observation → Tracker → σ → Tracker × List InputEvent × σ
  | [], t, s => (t, [], s)
  | o :: rest, t, s =>
    let first := t.apply o.layout o.table o.sample next s
    let others := applyAll next rest first.1 first.2.2
    (others.1, first.2.1 ++ others.2.1, others.2.2)

/-- Numbers from a counter: each is one more than the one before. -/
def countUp (n : UInt64) : UInt64 × UInt64 :=
  (n, n + 1)

namespace Tracker

variable {σ : Type}

theorem applyAll_append (next : σ → UInt64 × σ) (os ps : List Observation) (t : Tracker) (s : σ) :
    applyAll next (os ++ ps) t s =
      (let first := applyAll next os t s
       let others := applyAll next ps first.1 first.2.2
       (others.1, first.2.1 ++ others.2.1, others.2.2)) := by
  induction os generalizing t s with
  | nil => rfl
  | cons o rest ih =>
    rw [List.cons_append, applyAll, ih]
    simp only [applyAll, List.append_assoc]

/-- One more sample is one more observation of what the run left. -/
theorem applyAll_append_singleton (next : σ → UInt64 × σ) (l : Layout) (table : CalibrationTable)
    (xs : List Sample) (x : Sample) (t : Tracker) (s : σ) :
    (applyAll next (l.observations table (xs ++ [x])) t s).1 =
      (observe l table x (applyAll next (l.observations table xs) t s).1).1 := by
  rw [Layout.observations_append, applyAll_append]
  simp only [Layout.observations, List.map_cons, List.map_nil, applyAll, apply]

end Tracker

/-! ## Sources of numbers -/

section Sources

variable {σ ρ : Type} (next : σ → UInt64 × σ) (next' : ρ → UInt64 × ρ)

/-- Numbering through `f` is numbering below it, when drawing commutes with `f`. -/
theorem numbered_of_simulation (f : σ → ρ)
    (hf : ∀ s, next' (f s) = ((next s).1, f (next s).2)) (changes : List Change) (s : σ) :
    numbered next' changes (f s) =
      ((numbered next changes s).1, f (numbered next changes s).2) := by
  induction changes generalizing s with
  | nil => rfl
  | cons c rest ih => simp only [numbered, hf, ih]

theorem Tracker.apply_of_simulation (f : σ → ρ)
    (hf : ∀ s, next' (f s) = ((next s).1, f (next s).2)) (t : Tracker) (l : Layout)
    (table : CalibrationTable) (x : Sample) (s : σ) :
    t.apply l table x next' (f s) =
      (let counted := t.apply l table x next s
       (counted.1, counted.2.1, f counted.2.2)) := by
  simp only [Tracker.apply, numbered_of_simulation next next' f hf]

end Sources

/-- A session numbers events by counting up. -/
theorem Tracker.apply_nextSequence {τ : Type} (t : Tracker) (l : Layout)
    (table : CalibrationTable) (x : Sample) (s : Session τ) :
    t.apply l table x Session.nextSequence s =
      (let counted := t.apply l table x countUp s.sequence
       (counted.1, counted.2.1, { s with sequence := counted.2.2 })) :=
  apply_of_simulation countUp Session.nextSequence (fun n => { s with sequence := n })
    (fun _ => rfl) t l table x s.sequence

end RemotePad
