import RemotePad.Layout.Walk

/-!
# The visits of a walk

A walk shows objects to a visitor, who has a state of its own and may stop the walk at any object.
What a walk shows is told by a record that the visitor keeps.

* `Asked`: the mask and the filter ask for an object.  These are the objects that a walk chooses
  (`selects_iff`).
* `Layout.visits`: the calls of the visitor during a walk, from a record that it keeps of them
  (`recorded`).
* `Goes`: how a visitor goes through rows, one step for each row.  `goes_walkRows`: so does a walk,
  and the record of the visitor is right.
* `Goes.mem_iff`: the visitor is shown the chosen rows, up to the one at which it stops.
* `walk_and_find_agree`: all of this about walks over the table of a layout, and the first object
  that a filter selects is the first one that a walk for it shows.
-/

namespace RemotePad

/-! ## Objects asked for -/

/-- The filter is after every object, or after what is at the object's offset, or after its id. -/
def ObjectFilter.Chooses (filter : ObjectFilter) (o : ObjectDescriptor) : Prop :=
  filter = .device ∨ filter = .offset o.offset ∨ filter = .id o.id

/-- The mask has the bit of the object's kind, and the filter is after the object. -/
structure Asked (filter : ObjectFilter) (types : ObjectTypes) (o : ObjectDescriptor) : Prop where
  kind : o.id.kind = .axis ∧ types.bits &&& 1 ≠ 0 ∨ o.id.kind = .button ∧ types.bits &&& 2 ≠ 0 ∨
    o.id.kind = .hat ∧ types.bits &&& 4 ≠ 0
  chosen : filter.Chooses o

/-- The bit of a kind is a single one, so a part of it is all of it. -/
theorem ObjectTypes.admits_iff (types : ObjectTypes) (kind : ObjectKind) :
    types.admits kind = true ↔ types.bits &&& kind.typeBit ≠ 0 := by
  have hsingle : ∃ i, kind.typeBit.toBitVec = BitVec.twoPow 8 i := by
    cases kind
    · exact ⟨0, rfl⟩
    · exact ⟨1, rfl⟩
    · exact ⟨2, rfl⟩
  have hbit : kind.typeBit ≠ 0 := by cases kind <;> decide
  obtain ⟨i, hi⟩ := hsingle
  have hmask := BitVec.and_twoPow types.bits.toBitVec i
  rw [← hi, ← UInt8.toBitVec_and] at hmask
  unfold admits
  rw [beq_iff_eq]
  split at hmask
  · have hall : types.bits &&& kind.typeBit = kind.typeBit := UInt8.toBitVec_inj.mp hmask
    simp [hall, hbit]
  · have hnone : types.bits &&& kind.typeBit = 0 := UInt8.toBitVec_inj.mp hmask
    simp [hnone, hbit.symm]

theorem ObjectTypes.admits_all (kind : ObjectKind) : ObjectTypes.all.admits kind = true := by
  cases kind <;> rfl

theorem ObjectFilter.matches_iff (filter : ObjectFilter) (o : ObjectDescriptor) :
    filter.matches o = true ↔ filter.Chooses o := by
  unfold Chooses
  cases filter with
  | device => simp [ObjectFilter.matches]
  | offset n => simp [ObjectFilter.matches, @eq_comm _ n]
  | id i => simp [ObjectFilter.matches, @eq_comm _ i]

/-- A walk chooses what is asked for. -/
theorem selects_iff {filter : ObjectFilter} {types : ObjectTypes} {o : ObjectDescriptor} :
    selects filter types o = true ↔ Asked filter types o := by
  have hkind : types.bits &&& o.id.kind.typeBit ≠ 0 ↔
      o.id.kind = .axis ∧ types.bits &&& 1 ≠ 0 ∨ o.id.kind = .button ∧ types.bits &&& 2 ≠ 0 ∨
        o.id.kind = .hat ∧ types.bits &&& 4 ≠ 0 := by
    cases o.id.kind <;> simp [ObjectKind.typeBit]
  unfold selects
  rw [Bool.and_eq_true, types.admits_iff, filter.matches_iff, hkind]
  exact ⟨fun h => ⟨h.1, h.2⟩, fun h => ⟨h.kind, h.chosen⟩⟩

/-! ## Calls of a visitor -/

/-- One call of a visitor: the object that it was shown, with its index, and what it answered. -/
structure Visit where
  index : Nat
  object : ObjectDescriptor
  answer : Flow
  deriving Repr, DecidableEq

/-- The row of the table that was shown. -/
def Visit.row (c : Visit) : ObjectDescriptor × Nat :=
  (c.object, c.index)

section Visitor

variable {σ : Type}

/-- The visitor, keeping a record of its calls beside its state. -/
def recorded (visit : σ → Nat → ObjectDescriptor → Flow × σ) (s : σ × List Visit) (i : Nat)
    (o : ObjectDescriptor) : Flow × σ × List Visit :=
  ((visit s.1 i o).1, (visit s.1 i o).2, s.2 ++ [⟨i, o, (visit s.1 i o).1⟩])

/-- The calls of the visitor during a walk. -/
def Layout.visits (l : Layout) (filter : ObjectFilter) (types : ObjectTypes)
    (visit : σ → Nat → ObjectDescriptor → Flow × σ) (s : σ) : List Visit :=
  (l.walk filter types (recorded visit) (s, [])).2.2

/-- The calls follow on each other: each is answered in the state that the one before it left. -/
inductive Played (visit : σ → Nat → ObjectDescriptor → Flow × σ) : σ → List Visit → σ → Prop
  | none {s : σ} : Played visit s [] s
  | next {s s' t : σ} {i : Nat} {o : ObjectDescriptor} {answer : Flow} {calls : List Visit} :
      visit s i o = (answer, s') → Played visit s' calls t →
      Played visit s (⟨i, o, answer⟩ :: calls) t

/-- How a visitor goes through rows: past a row that is not chosen, on after one that it was shown,
or no further. -/
inductive Goes (chosen : ObjectDescriptor → Bool)
    (visit : σ → Nat → ObjectDescriptor → Flow × σ) :
    List (ObjectDescriptor × Nat) → σ → List Visit → Flow × σ → Prop
  | done {s : σ} : Goes chosen visit [] s [] (.proceed, s)
  | pass {s : σ} {i : Nat} {o : ObjectDescriptor} {rest : List (ObjectDescriptor × Nat)}
      {calls : List Visit} {r : Flow × σ} :
      chosen o = false → Goes chosen visit rest s calls r →
      Goes chosen visit ((o, i) :: rest) s calls r
  | proceed {s s' : σ} {i : Nat} {o : ObjectDescriptor} {rest : List (ObjectDescriptor × Nat)}
      {calls : List Visit} {r : Flow × σ} :
      chosen o = true → visit s i o = (.proceed, s') → Goes chosen visit rest s' calls r →
      Goes chosen visit ((o, i) :: rest) s (⟨i, o, .proceed⟩ :: calls) r
  | stop {s s' : σ} {i : Nat} {o : ObjectDescriptor} {rest : List (ObjectDescriptor × Nat)} :
      chosen o = true → visit s i o = (.stop, s') →
      Goes chosen visit ((o, i) :: rest) s [⟨i, o, .stop⟩] (.stop, s')

variable {chosen : ObjectDescriptor → Bool} {visit : σ → Nat → ObjectDescriptor → Flow × σ}

/-- Every answer on record is one of the visitor. -/
theorem Played.exists_answer {s t : σ} {calls : List Visit} (played : Played visit s calls t)
    {c : Visit} (hc : c ∈ calls) : ∃ u, (visit u c.index c.object).1 = c.answer := by
  induction played with
  | none => cases hc
  | @next s _ _ _ _ _ _ answered _ ih =>
    rcases List.mem_cons.mp hc with rfl | hc
    · exact ⟨s, congrArg Prod.fst answered⟩
    · exact ih hc

/-- A walk goes through its rows, and the record of the visitor grows by its calls and has no
influence on them. -/
theorem goes_walkRows (chosen : ObjectDescriptor → Bool)
    (visit : σ → Nat → ObjectDescriptor → Flow × σ) (rows : List (ObjectDescriptor × Nat)) (s : σ) :
    ∃ calls, Goes chosen visit rows s calls (walkRows chosen visit rows s) ∧
      ∀ log, walkRows chosen (recorded visit) rows (s, log) =
        ((walkRows chosen visit rows s).1, (walkRows chosen visit rows s).2, log ++ calls) := by
  induction rows generalizing s with
  | nil => exact ⟨[], .done, fun log => by simp [walkRows]⟩
  | cons row rest ih =>
    obtain ⟨o, i⟩ := row
    cases hchosen : chosen o with
    | false =>
      have hwalk : walkRows chosen visit ((o, i) :: rest) s = walkRows chosen visit rest s := by
        simp [walkRows, hchosen]
      obtain ⟨calls, goes, hrecord⟩ := ih s
      rw [hwalk]
      refine ⟨calls, .pass hchosen goes, fun log => ?_⟩
      simp [walkRows, hchosen, hrecord]
    | true =>
      rcases hvisit : visit s i o with ⟨answer, s'⟩
      cases answer with
      | proceed =>
        have hwalk : walkRows chosen visit ((o, i) :: rest) s = walkRows chosen visit rest s' := by
          simp [walkRows, hchosen, hvisit]
        obtain ⟨calls, goes, hrecord⟩ := ih s'
        rw [hwalk]
        refine ⟨⟨i, o, .proceed⟩ :: calls, .proceed hchosen hvisit goes, fun log => ?_⟩
        simp [walkRows, hchosen, recorded, hvisit, hrecord]
      | stop =>
        have hwalk : walkRows chosen visit ((o, i) :: rest) s = (.stop, s') := by
          simp [walkRows, hchosen, hvisit]
        rw [hwalk]
        refine ⟨[⟨i, o, .stop⟩], .stop hchosen hvisit, fun log => ?_⟩
        simp [walkRows, hchosen, recorded, hvisit]

namespace Goes

variable {rows : List (ObjectDescriptor × Nat)} {s : σ} {calls : List Visit} {r : Flow × σ}

theorem played (goes : Goes chosen visit rows s calls r) : Played visit s calls r.2 := by
  induction goes with
  | done => exact .none
  | pass _ _ ih => exact ih
  | proceed _ answered _ ih => exact .next answered ih
  | stop _ answered => exact .next answered .none

/-- The walk is stopped exactly when a call asked for it. -/
theorem stopped_iff (goes : Goes chosen visit rows s calls r) :
    r.1 = .stop ↔ ∃ c ∈ calls, c.answer = .stop := by
  induction goes with
  | done => simp
  | pass _ _ ih => exact ih
  | proceed _ _ _ ih => simpa using ih
  | stop _ _ => simp

/-- What the visitor is shown stands in the rows, in their order. -/
theorem sublist (goes : Goes chosen visit rows s calls r) :
    (calls.map Visit.row).Sublist rows := by
  induction goes with
  | done => exact .slnil
  | pass _ _ ih => exact ih.cons _
  | proceed _ _ _ ih => exact ih.cons_cons _
  | stop _ _ => exact (List.nil_sublist _).cons_cons _

theorem pairwise_index (goes : Goes chosen visit rows s calls r)
    (ordered : rows.Pairwise fun a b => a.2 < b.2) :
    calls.Pairwise fun a b => a.index < b.index := by
  have hshown := ordered.sublist goes.sublist
  rw [List.pairwise_map] at hshown
  exact hshown

/-- A visitor that never stops is shown all rows that are chosen. -/
theorem map_row (goes : Goes chosen visit rows s calls r)
    (on : ∀ c ∈ calls, c.answer = .proceed) :
    calls.map Visit.row = rows.filter fun row => chosen row.1 := by
  induction goes with
  | done => rfl
  | pass other _ ih => simp [other, ih on]
  | proceed shown _ _ ih =>
    have htail := ih fun c hc => on c (List.mem_cons_of_mem _ hc)
    simp [shown, htail, Visit.row]
  | stop _ _ =>
    have hon : Flow.stop = .proceed := on _ (List.mem_singleton_self _)
    cases hon

/-- What is shown of rows after the `n`th stands after it. -/
theorem index_lt (goes : Goes chosen visit rows s calls r) {n : Nat}
    (later : ∀ row ∈ rows, n < row.2) {c : Visit} (hc : c ∈ calls) : n < c.index := by
  have hrow : c.row ∈ rows := goes.sublist.subset (List.mem_map_of_mem hc)
  exact later c.row hrow

/-- A row is shown exactly when it is chosen and none before it made the visitor stop. -/
theorem mem_iff (goes : Goes chosen visit rows s calls r)
    (ordered : rows.Pairwise fun a b => a.2 < b.2) (i : Nat) (o : ObjectDescriptor) :
    (∃ answer, ⟨i, o, answer⟩ ∈ calls) ↔
      (o, i) ∈ rows ∧ chosen o = true ∧ ∀ c ∈ calls, c.index < i → c.answer = .proceed := by
  induction goes with
  | done => simp
  | pass other _ ih =>
    obtain ⟨_, hrest⟩ := List.pairwise_cons.mp ordered
    rw [ih hrest, List.mem_cons]
    constructor
    · rintro ⟨hrow, hchosen, before⟩
      exact ⟨.inr hrow, hchosen, before⟩
    · rintro ⟨heq | hrow, hchosen, before⟩
      · cases heq
        rw [other] at hchosen
        cases hchosen
      · exact ⟨hrow, hchosen, before⟩
  | proceed shown _ goes ih =>
    obtain ⟨hlater, hrest⟩ := List.pairwise_cons.mp ordered
    constructor
    · rintro ⟨answer, hcall⟩
      rcases List.mem_cons.mp hcall with heq | hcall
      · cases heq
        refine ⟨List.mem_cons_self, shown, List.forall_mem_cons.mpr ⟨fun _ => rfl, ?_⟩⟩
        intro c hc hlt
        exact absurd hlt (Nat.not_lt_of_gt (goes.index_lt hlater hc))
      · obtain ⟨hrow, hchosen, before⟩ := (ih hrest).mp ⟨answer, hcall⟩
        exact ⟨List.mem_cons_of_mem _ hrow, hchosen,
          List.forall_mem_cons.mpr ⟨fun _ => rfl, before⟩⟩
    · rintro ⟨hrow, hchosen, before⟩
      obtain ⟨_, hbefore⟩ := List.forall_mem_cons.mp before
      rcases List.mem_cons.mp hrow with heq | hrow
      · cases heq
        exact ⟨_, List.mem_cons_self⟩
      · obtain ⟨answer, hcall⟩ := (ih hrest).mpr ⟨hrow, hchosen, hbefore⟩
        exact ⟨answer, List.mem_cons_of_mem _ hcall⟩
  | stop shown _ =>
    obtain ⟨hlater, _⟩ := List.pairwise_cons.mp ordered
    constructor
    · rintro ⟨answer, hcall⟩
      cases List.mem_singleton.mp hcall
      refine ⟨List.mem_cons_self, shown, List.forall_mem_singleton.mpr ?_⟩
      intro hlt
      exact absurd hlt (Nat.lt_irrefl _)
    · rintro ⟨hrow, _, before⟩
      rcases List.mem_cons.mp hrow with heq | hrow
      · cases heq
        exact ⟨_, List.mem_singleton_self _⟩
      · -- the visitor stopped before this row
        have hon : Flow.stop = .proceed := List.forall_mem_singleton.mp before (hlater _ hrow)
        cases hon

end Goes

/-! ## The table of a layout -/

namespace Layout

theorem mem_rows_iff {l : Layout} {i : Nat} {o : ObjectDescriptor} :
    (o, i) ∈ l.rows ↔ l.objects[i]? = some o :=
  List.mem_zipIdx_iff_getElem?

theorem rows_ordered (l : Layout) : l.rows.Pairwise fun a b => a.2 < b.2 := by
  have hindices : (l.rows.map Prod.snd).Pairwise (· < ·) := by
    rw [rows, List.zipIdx_map_snd]
    exact List.pairwise_lt_range' 1
  exact List.pairwise_map.mp hindices

/-- A walk goes through the table, and the record of the calls has no influence on it. -/
theorem goes_walk (l : Layout) (filter : ObjectFilter) (types : ObjectTypes)
    (visit : σ → Nat → ObjectDescriptor → Flow × σ) (s : σ) :
    Goes (selects filter types) visit l.rows s (l.visits filter types visit s)
      (l.walk filter types visit s) ∧
    l.walk filter types (recorded visit) (s, []) =
      ((l.walk filter types visit s).1, (l.walk filter types visit s).2,
        l.visits filter types visit s) := by
  obtain ⟨calls, goes, hrecord⟩ := goes_walkRows (selects filter types) visit l.rows s
  have hwalk : l.walk filter types (recorded visit) (s, []) =
      ((l.walk filter types visit s).1, (l.walk filter types visit s).2, calls) := hrecord []
  have hvisits : l.visits filter types visit s = calls := by rw [visits, hwalk]
  rw [hvisits]
  exact ⟨goes, hwalk⟩

/-- The first object that a filter selects is the first one shown to a visitor that never stops,
whatever the visitor makes of it. -/
theorem find_eq_head? (l : Layout) (filter : ObjectFilter) (next : σ → Nat → ObjectDescriptor → σ)
    (s : σ) :
    l.find filter = (l.visits filter .all (fun s i o => (.proceed, next s i o)) s).head?.map
      fun c => (c.index, c.object) := by
  obtain ⟨goes, _⟩ := l.goes_walk filter .all (fun s i o => (.proceed, next s i o)) s
  have hshown := goes.map_row fun c hc => by
    obtain ⟨_, hanswer⟩ := goes.played.exists_answer hc
    exact hanswer.symm
  have hselects : ∀ o, selects filter .all o = filter.matches o := by
    intro o
    rw [selects, ObjectTypes.admits_all, Bool.true_and]
  simp only [hselects] at hshown
  rw [find, ← List.head?_filter, ← hshown, List.head?_map, Option.map_map]
  rfl

/-- The object with an id stands at the index of the id. -/
theorem map_fst_find_id (l : Layout) (id : ObjectId) :
    (l.find (.id id)).map Prod.fst = l.indexOf id := by
  rw [indexOf, List.findIdx?_eq_fst_find?_zipIdx, find, Option.map_map]
  rfl

end Layout

end Visitor

/-- Walks and look-ups in the table of a layout, whatever the filter, the mask and the visitor with
its state.

* Keeping a record changes nothing, and by the record each call is answered in the state that the
  one before it left.
* The indices of the calls rise, so that nothing is shown twice.  An object is shown, with its index
  in the table, exactly when it is asked for and no call before it stopped the walk.
* A walk is stopped exactly when a call asked for it.
* The first object that a filter selects is the first one shown by a walk for it, over all kinds,
  to a visitor that never stops.  For an id it stands at the index of the id. -/
theorem walk_and_find_agree (l : Layout) :
    (∀ (filter : ObjectFilter) (types : ObjectTypes) {σ : Type}
      (visit : σ → Nat → ObjectDescriptor → Flow × σ) (s : σ),
      let walked := l.walk filter types visit s
      let calls := l.visits filter types visit s
      l.walk filter types (recorded visit) (s, []) = (walked.1, walked.2, calls) ∧
      Played visit s calls walked.2 ∧
      calls.Pairwise (fun a b => a.index < b.index) ∧
      (∀ i o, (∃ answer, ⟨i, o, answer⟩ ∈ calls) ↔
        l.objects[i]? = some o ∧ Asked filter types o ∧
          ∀ c ∈ calls, c.index < i → c.answer = .proceed) ∧
      (walked.1 = .stop ↔ ∃ c ∈ calls, c.answer = .stop)) ∧
    (∀ (filter : ObjectFilter) {σ : Type} (next : σ → Nat → ObjectDescriptor → σ) (s : σ),
      l.find filter = (l.visits filter ⟨7⟩ (fun s i o => (.proceed, next s i o)) s).head?.map
        fun c => (c.index, c.object)) ∧
    ∀ id, (l.find (.id id)).map Prod.fst = l.indexOf id := by
  refine ⟨?walk, ?find, ?index⟩
  case walk =>
    intro filter types σ visit s walked calls
    obtain ⟨goes, hrecord⟩ := l.goes_walk filter types visit s
    refine ⟨hrecord, goes.played, goes.pairwise_index l.rows_ordered, fun i o => ?_,
      goes.stopped_iff⟩
    rw [goes.mem_iff l.rows_ordered, Layout.mem_rows_iff, selects_iff]
  case find =>
    intro filter σ next s
    exact l.find_eq_head? filter next s
  case index =>
    intro id
    exact l.map_fst_find_id id

/-- A visitor that counts its calls and stops at the third, under a mask with bits of no kind. -/
example :
    let third : Nat → Nat → ObjectDescriptor → Flow × Nat :=
      fun n _ _ => (if n = 2 then .stop else .proceed, n + 1)
    Layout.standard.visits .device ⟨0xfa⟩ third 0 =
      [⟨4, .ofButton 0 "Button 0", .proceed⟩, ⟨5, .ofButton 1 "Button 1", .proceed⟩,
        ⟨6, .ofButton 2 "Button 2", .stop⟩] := by
  decide

end RemotePad
