import RemotePad.Toml.Document

/-!
# Integers of a document

Every integer at the top of a document that was read has 64 bits: readers of numbers refuse any
other, and growing a table puts in what was read, or tables.

* `Value.Fits` and `Entries.Fit`: the value is no integer of more bits, and so are all of a table.
* `fit_insert`, `fit_modifyAt`, `fit_openTable`, `fit_openElement`: the ways a document grows.
* `fits_readValue`, `fit_parse?`: values that were read, and whole documents.
-/

namespace RemotePad.Toml

/-- The value is no integer of more than 64 bits. -/
def Value.Fits (v : Value) : Prop :=
  ∀ n, v = .integer n → fits64 n = true

/-- No value of the table is an integer of more than 64 bits. -/
def Entries.Fit (entries : Entries) : Prop :=
  ∀ e ∈ entries, e.2.Fits

/-! ## Growth -/

theorem Entries.Fit.put {entries : Entries} (fit : entries.Fit) (k : Key) {v : Value}
    (fits : v.Fits) : (Entries.put entries k v).Fit := by
  intro e he
  unfold Entries.put at he
  split at he
  · obtain ⟨old, hold, rfl⟩ := List.mem_map.mp he
    split
    · exact fits
    · exact fit old hold
  · rcases List.mem_append.mp he with hold | hnew
    · exact fit e hold
    · rw [List.mem_singleton.mp hnew]
      exact fits

/-- What was found below goes back as a table. -/
theorem fit_of_map {found : Option Entries} {entries entries' : Entries} (fit : entries.Fit)
    {k : Key} {wrap : Entries → Value}
    (h : (found.map fun sub => Entries.put entries k (wrap sub)) = some entries')
    (tables : ∀ sub, (wrap sub).Fits) :
    entries'.Fit := by
  obtain ⟨sub, _, rfl⟩ := Option.map_eq_some_iff.mp h
  exact fit.put k (tables sub)

theorem fit_insert {path : List Key} {v : Value} {entries entries' : Entries} (fits : v.Fits)
    (fit : entries.Fit) (h : insert path v entries = some entries') : entries'.Fit := by
  unfold insert at h
  split at h
  · cases h
  · split at h
    · cases h
    · cases h
      exact fit.put _ fits
  · split at h
    · exact fit_of_map fit h fun _ => nofun
    · exact fit_of_map fit h fun _ => nofun
    · split at h
      · cases h
      · exact fit_of_map fit h fun _ => nofun
    · split at h
      · cases h
      · exact fit_of_map fit h fun _ => nofun
    · cases h

theorem fit_modifyAt {path : List Key} {f : Entries → Option Entries} {entries entries' : Entries}
    (kept : ∀ sub sub', Entries.Fit sub → f sub = some sub' → Entries.Fit sub')
    (fit : entries.Fit) (h : modifyAt path f entries = some entries') : entries'.Fit := by
  unfold modifyAt at h
  split at h
  · exact kept _ _ fit h
  · split at h
    · exact fit_of_map fit h fun _ => nofun
    · exact fit_of_map fit h fun _ => nofun
    · cases h

theorem fit_descend {path : List Key} {f : Key → Entries → Option Entries}
    {entries entries' : Entries}
    (kept : ∀ k sub sub', Entries.Fit sub → f k sub = some sub' → Entries.Fit sub')
    (fit : entries.Fit) (h : descend f path entries = some entries') : entries'.Fit := by
  unfold descend at h
  split at h
  · cases h
  · exact kept _ _ _ fit h
  · split at h
    · exact fit_of_map fit h fun _ => nofun
    · cases h
    · exact fit_of_map fit h fun _ => nofun
    · exact fit_of_map fit h fun _ => nofun
    · cases h

theorem fit_openTable {path : List Key} {entries entries' : Entries} (fit : entries.Fit)
    (h : openTable path entries = some entries') : entries'.Fit := by
  refine fit_descend (fun k sub sub' hsub hopen => ?_) fit h
  split at hopen
  · cases hopen
    exact hsub.put k nofun
  · cases hopen
    exact hsub.put k nofun
  · cases hopen

theorem fit_openElement {path : List Key} {entries entries' : Entries} (fit : entries.Fit)
    (h : openElement path entries = some entries') : entries'.Fit := by
  refine fit_descend (fun k sub sub' hsub hopen => ?_) fit h
  split at hopen
  · cases hopen
    exact hsub.put k nofun
  · cases hopen
    exact hsub.put k nofun
  · cases hopen

/-! ## Values -/

theorem fits_integer? {n : Int} {rest rest' : List Char} {v : Value}
    (h : integer? n rest = some (v, rest')) : v.Fits := by
  unfold integer? at h
  split at h
  · next hfits =>
    cases h
    rintro m hm
    cases hm
    exact hfits
  · cases h

theorem fits_readInteger {text rest : List Char} {v : Value}
    (h : readInteger text = some (v, rest)) : v.Fits := by
  unfold readInteger at h
  split at h
  all_goals
    first
    | obtain ⟨_, _, hread⟩ := Option.bind_eq_some_iff.mp h
      exact fits_integer? hread

theorem fits_readFloat {text rest : List Char} {v : Value}
    (h : readFloat text = some (v, rest)) : v.Fits := by
  unfold readFloat at h
  cases hdigits : readDigitFloat text with
  | some r =>
    rw [hdigits] at h
    cases h
    simp only [readDigitFloat, Option.bind_eq_bind, Option.bind_eq_some_iff] at hdigits
    obtain ⟨_, _, _, _, _, _, hvalue⟩ := hdigits
    split at hvalue
    · cases hvalue
    · split at hvalue
      · cases hvalue
      · cases hvalue
        nofun
  | none =>
    rw [hdigits, Option.orElse_none] at h
    unfold readSpecialFloat at h
    split at h
    · cases h
      nofun
    · cases h
      nofun
    · cases h

theorem fits_readNumeric {text rest : List Char} {v : Value}
    (h : readNumeric text = some (v, rest)) : v.Fits := by
  unfold readNumeric at h
  cases hdate : readDateTime text with
  | some r =>
    rw [hdate] at h
    cases h
    obtain ⟨_, _, hvalue⟩ := Option.map_eq_some_iff.mp hdate
    cases hvalue
    nofun
  | none =>
    rw [hdate, Option.orElse_none] at h
    cases hfloat : readFloat text with
    | some r =>
      rw [hfloat] at h
      cases h
      exact fits_readFloat hfloat
    | none =>
      rw [hfloat, Option.orElse_none] at h
      exact fits_readInteger h

theorem fits_readWord {word text rest : List Char} {b : Bool} {v : Value}
    (h : readWord word (.boolean b) text = some (v, rest)) : v.Fits := by
  unfold readWord at h
  split at h
  · cases h
    nofun
  · cases h

theorem fits_readPlainValue {text rest : List Char} {v : Value}
    (h : readPlainValue text = some (v, rest)) : v.Fits := by
  unfold readPlainValue at h
  split at h
  · cases h
  · split at h
    · obtain ⟨_, _, hvalue⟩ := Option.map_eq_some_iff.mp h
      cases hvalue
      nofun
    · split at h
      · exact fits_readWord h
      · split at h
        · exact fits_readWord h
        · split at h
          · exact fits_readNumeric h
          · cases h

/-- A value that was read is no integer of more bits. -/
theorem fits_readValue {fuel depth : Nat} {text rest : List Char} {v : Value}
    (h : readValue fuel depth text = some (v, rest)) : v.Fits := by
  unfold readValue at h
  split at h
  · cases h
  · split at h
    · cases h
    · cases h
    · obtain ⟨_, _, hvalue⟩ := Option.map_eq_some_iff.mp h
      cases hvalue
      nofun
    · split at h
      · cases h
        nofun
      · obtain ⟨_, _, hvalue⟩ := Option.map_eq_some_iff.mp h
        cases hvalue
        nofun
    · exact fits_readPlainValue h

/-! ## Documents -/

theorem fit_readAssignment {draft draft' : Draft} {text rest : List Char} (fit : draft.root.Fit)
    (h : readAssignment draft text = some (draft', rest)) : draft'.root.Fit := by
  simp only [readAssignment, Option.bind_eq_bind, Option.bind_eq_some_iff, Option.pure_def,
    Option.some.injEq] at h
  obtain ⟨⟨path, text'⟩, _, ⟨v, text''⟩, hvalue, _, _, root, hroot, hdraft⟩ := h
  cases hdraft
  exact fit_modifyAt (fun sub sub' hsub => fit_insert (fits_readValue hvalue) hsub) fit hroot

theorem fit_readLine {draft draft' : Draft} {text rest : List Char} (fit : draft.root.Fit)
    (h : readLine draft text = some (draft', rest)) : draft'.root.Fit := by
  unfold readLine at h
  split at h
  · obtain ⟨_, _, hdraft⟩ := Option.map_eq_some_iff.mp h
    cases hdraft
    exact fit
  · simp only [Option.bind_eq_bind, Option.bind_eq_some_iff, Option.pure_def,
      Option.some.injEq] at h
    obtain ⟨_, _, root, hroot, hdraft⟩ := h
    cases hdraft
    exact fit_openElement fit hroot
  · simp only [Option.bind_eq_bind, Option.bind_eq_some_iff, Option.pure_def,
      Option.some.injEq] at h
    obtain ⟨_, _, root, hroot, hdraft⟩ := h
    cases hdraft
    exact fit_openTable fit hroot
  · exact fit_readAssignment fit h

theorem fit_readLines {fuel : Nat} {draft : Draft} {text : List Char} {entries : Entries}
    (fit : draft.root.Fit) (h : readLines fuel draft text = some entries) : entries.Fit := by
  induction fuel generalizing draft text with
  | zero => cases h
  | succ fuel ih =>
    unfold readLines at h
    split at h
    · cases h
      exact fit
    · split at h
      · exact ih fit h
      · obtain ⟨⟨draft', rest⟩, hline, hrest⟩ := Option.bind_eq_some_iff.mp h
        exact ih (fit_readLine fit hline) hrest

/-- The integers at the top of a document have 64 bits. -/
theorem fit_parse? {text : List Char} {entries : Entries} (h : parse? text = some entries) :
    entries.Fit := by
  have fit : Entries.Fit ({} : Draft).root := nofun
  exact fit_readLines fit h

end RemotePad.Toml
