import RemotePad.Proofs.Files.Writing

/-!
# Paths of names

A path of names alone goes down with each part, so it can only lead to one place.  Making the
folders of such a path adds the places on the way and no others.

* `FilePath.Names`: each part of the path is a name.
* `FileSystem.walk_of_names`, `walk_of_glance`: the path leads to the place below, and it leads
  there exactly when something stands there and the names are short enough.
* `FileSystem.glance_makeWay_names`: the folders that are made.
* `FileSystem.GainsParents`: files are as before, and what is new are folders above the path.
-/

namespace RemotePad

namespace FilePath

/-- Each part of the path is a name: not empty, and neither of the two points. -/
def Names (path : FilePath) : Prop :=
  ∀ part ∈ path, part ≠ [] ∧ part ≠ ['.'] ∧ part ≠ ['.', '.']

instance (path : FilePath) : Decidable path.Names :=
  inferInstanceAs (Decidable (∀ part ∈ path, part ≠ [] ∧ part ≠ ['.'] ∧ part ≠ ['.', '.']))

variable {path : FilePath}

theorem Names.enters (names : path.Names) {part : FileName} (h : part ∈ path) :
    Step.ofPart part = .enter part := by
  obtain ⟨hempty, hone, htwo⟩ := names part h
  exact Step.ofPart_eq_enter hempty hone htwo

theorem Names.tail {part : FileName} (names : Names (part :: path)) : path.Names :=
  fun other h => names other (List.mem_cons_of_mem part h)

theorem Names.dropLast (names : path.Names) : Names path.dropLast :=
  fun part h => names part (List.dropLast_subset path h)

/-- No part at the end goes nowhere. -/
theorem Names.trim (names : path.Names) : trim path = path := by
  induction path with
  | nil => rfl
  | cons part rest ih =>
    have hpart : Step.ofPart part ≠ .stay := by
      rw [names.enters List.mem_cons_self]
      nofun
    rw [FilePath.trim, ih names.tail]
    cases rest with
    | nil => exact if_neg hpart
    | cons next rest => rfl

/-- The parent is the path without its last name. -/
theorem Names.parent (names : path.Names) : path.parent = path.dropLast := by
  rw [FilePath.parent, names.trim, names.dropLast.trim]

end FilePath

namespace FileSystem

open FileTree FilePath.Step

variable {tree tree' : FileTree} {fs fs' : FileSystem} {path : FilePath} {place : Place}

/-! ## Where a path of names leads -/

/-- A step by a name, if it can be made, leads to what has the name. -/
theorem step_of_enters {part : FileName} {next : Place} (enters : ofPart part = .enter part)
    (goes : step tree place part = .ok next) :
    next = place ++ [part] ∧ Named tree place part ∧ (tree.glance (place ++ [part])).isSome := by
  have inside : tree.glance place = some .folder := inside_of_step (by rw [goes]; nofun)
  rw [step_eq inside, enters] at goes
  dsimp only at goes
  split at goes
  · cases goes
  · next hshort =>
    split at goes
    · next hthere =>
      cases goes
      exact ⟨rfl, ⟨inside, enters, Nat.le_of_not_lt hshort⟩, hthere⟩
    · cases goes

/-- A path of names leads to the place below, if it leads anywhere; the names are short, and there
is something at the place. -/
theorem walk_of_names (names : path.Names) (nonempty : path ≠ []) {next : Place}
    (goes : walk tree place path = .ok next) :
    next = place ++ path ∧ (∀ part ∈ path, (Utf8.encode part).length ≤ FilePath.nameLimit) ∧
      (tree.glance next).isSome := by
  induction path generalizing place with
  | nil => exact absurd rfl nonempty
  | cons part rest ih =>
    rw [walk_cons] at goes
    cases hstep : step tree place part with
    | error e =>
      rw [hstep] at goes
      cases goes
    | ok middle =>
      rw [hstep] at goes
      obtain ⟨rfl, hnamed, hthere⟩ := step_of_enters (names.enters List.mem_cons_self) hstep
      cases rest with
      | nil =>
        cases goes
        exact ⟨rfl, List.forall_mem_singleton.mpr hnamed.short, hthere⟩
      | cons second rest =>
        obtain ⟨hnext, hshort, hseen⟩ := ih names.tail (List.cons_ne_nil _ _) goes
        rw [List.append_assoc] at hnext
        exact ⟨hnext, List.forall_mem_cons.mpr ⟨hnamed.short, hshort⟩, hseen⟩

/-- Above what is seen at a place there are folders. -/
theorem glance_above {below : Place} (nonempty : below ≠ [])
    (seen : (tree.glance (place ++ below)).isSome) : tree.glance place = some .folder := by
  rw [glance, find?_append, Option.isSome_map] at seen
  obtain ⟨t, hfound⟩ := Option.isSome_iff_exists.mp seen
  obtain ⟨around, hplace, hbelow⟩ := Option.bind_eq_some_iff.mp hfound
  cases around with
  | folder entries => exact glance_eq_folder.mpr ⟨entries, hplace⟩
  | file bytes =>
    cases below with
    | nil => exact absurd rfl nonempty
    | cons name rest => cases hbelow

/-- A path of short names leads to what is there. -/
theorem walk_of_glance (names : path.Names)
    (short : ∀ part ∈ path, (Utf8.encode part).length ≤ FilePath.nameLimit)
    (seen : (tree.glance (place ++ path)).isSome) : walk tree place path = .ok (place ++ path) := by
  induction path generalizing place with
  | nil => rw [List.append_nil]; rfl
  | cons part rest ih =>
    obtain ⟨hpart, hrest⟩ := List.forall_mem_cons.mp short
    have inside := glance_above (List.cons_ne_nil part rest) seen
    rw [List.append_cons] at seen ⊢
    have hthere : (tree.glance (place ++ [part])).isSome := by
      cases rest with
      | nil => rwa [List.append_nil] at seen
      | cons next rest =>
        rw [glance_above (List.cons_ne_nil next rest) seen]
        rfl
    have hstep : step tree place part = .ok (place ++ [part]) :=
      Named.step ⟨inside, names.enters List.mem_cons_self, hpart⟩ hthere
    rw [walk_cons, hstep]
    exact ih names.tail hrest seen

/-- A path of names starts in the working folder. -/
theorem start_of_names (fs : FileSystem) (names : path.Names) : fs.start path = fs.here := by
  refine if_neg fun hroot => ?_
  cases path with
  | nil => cases hroot
  | cons part rest => exact (names part List.mem_cons_self).1 (Option.some.inj hroot)

/-! ## Making the folders of a path of names -/

/-- What is new are folders on the way. -/
theorem glance_makeWay_names (names : path.Names) (tree : FileTree) (place other : Place) :
    (makeWay tree place path).2.glance other = tree.glance other ∨
      tree.glance other = none ∧ (makeWay tree place path).2.glance other = some .folder ∧
        ∃ k, 0 < k ∧ k ≤ path.length ∧ other = place ++ path.take k := by
  induction path generalizing tree place with
  | nil =>
    unfold makeWay
    split <;> exact Or.inl rfl
  | cons part rest ih =>
    -- a place on the way from the first name on is one on the whole way
    have longer : (∃ k, 0 < k ∧ k ≤ rest.length ∧ other = (place ++ [part]) ++ rest.take k) →
        ∃ k, 0 < k ∧ k ≤ (part :: rest).length ∧ other = place ++ (part :: rest).take k := by
      rintro ⟨k, _, hk, rfl⟩
      exact ⟨k + 1, Nat.succ_pos k, Nat.succ_le_succ hk, (List.append_cons _ _ _).symm⟩
    unfold makeWay
    split
    · next next hstep =>
      obtain ⟨rfl, _⟩ := step_of_enters (names.enters List.mem_cons_self) hstep
      rcases ih names.tail tree (place ++ [part]) with hsame | ⟨hfree, hfolder, hway⟩
      · exact Or.inl hsame
      · exact Or.inr ⟨hfree, hfolder, longer hway⟩
    · next hmissing =>
      obtain ⟨hnamed, hfree⟩ := named_of_missing hmissing
      have free : tree.glance (place ++ [part]) ≠ some .folder := by simp [hfree]
      have hput := glance_put leaf_folder hnamed.inside free other
      rcases ih names.tail (tree.put (place ++ [part]) (.folder [])) (place ++ [part]) with
        hsame | ⟨hfreeBelow, hfolder, hway⟩
      · rw [hsame, hput]
        split
        · next hother =>
          subst hother
          exact Or.inr ⟨hfree, rfl, 1, Nat.one_pos, Nat.le_add_left 1 _, rfl⟩
        · exact Or.inl rfl
      · rw [hput] at hfreeBelow
        split at hfreeBelow
        · cases hfreeBelow
        · exact Or.inr ⟨hfreeBelow, hfolder, longer hway⟩
    · exact Or.inl rfl

/-- The files are as before.  Whatever is new is a folder above the path. -/
structure GainsParents (path : FilePath) (fs fs' : FileSystem) : Prop where
  here : fs'.here = fs.here
  files : ∀ place bytes,
    fs'.tree.glance place = some (.file bytes) ↔ fs.tree.glance place = some (.file bytes)
  added : ∀ place, fs'.tree.glance place ≠ fs.tree.glance place →
    fs.tree.glance place = none ∧ fs'.tree.glance place = some .folder ∧
      ∃ k, 0 < k ∧ k < path.length ∧ place = fs.here ++ path.take k

namespace GainsParents

theorem refl (path : FilePath) (fs : FileSystem) : GainsParents path fs fs where
  here := rfl
  files := fun _ _ => Iff.rfl
  added := fun _ hnew => absurd rfl hnew

/-- Making the folders above a path of names. -/
theorem makeFolders (names : path.Names) (fs : FileSystem) :
    GainsParents path fs (fs.makeFolders path.dropLast).2 := by
  have cases : ∀ place,
      (fs.makeFolders path.dropLast).2.tree.glance place = fs.tree.glance place ∨
        fs.tree.glance place = none ∧
          (fs.makeFolders path.dropLast).2.tree.glance place = some .folder ∧
          ∃ k, 0 < k ∧ k < path.length ∧ place = fs.here ++ path.take k := by
    intro place
    unfold FileSystem.makeFolders
    split
    · exact Or.inl rfl
    · rw [start_of_names fs names.dropLast]
      refine (glance_makeWay_names names.dropLast fs.tree fs.here place).imp_right ?_
      rintro ⟨hfree, hfolder, k, hpos, hk, hplace⟩
      rw [List.length_dropLast] at hk
      refine ⟨hfree, hfolder, k, hpos, by omega, ?_⟩
      rw [hplace, List.dropLast_eq_take, List.take_take, Nat.min_eq_left hk]
  refine ⟨here_makeFolders fs _, fun place bytes => ?_, fun place hnew => ?_⟩
  · rcases cases place with hsame | ⟨hfree, hfolder, _⟩
    · rw [hsame]
    · rw [hfree, hfolder]
      exact ⟨nofun, nofun⟩
  · exact (cases place).resolve_left hnew

variable (gains : GainsParents path fs fs')
include gains

theorem keeps : fs.tree.Keeps fs'.tree where
  folders := fun place hfolder => by
    by_cases hsame : fs'.tree.glance place = fs.tree.glance place
    · rw [hsame, hfolder]
    · exact (gains.added place hsame).2.1
  files := fun place bytes hfile => ⟨bytes, (gains.files place bytes).mpr hfile⟩

/-- Nothing is new where the path leads. -/
theorem glance_end : fs'.tree.glance (fs.here ++ path) = fs.tree.glance (fs.here ++ path) := by
  by_cases hsame : fs'.tree.glance (fs.here ++ path) = fs.tree.glance (fs.here ++ path)
  · exact hsame
  · obtain ⟨_, _, k, _, hk, hplace⟩ := gains.added _ hsame
    have hlength := congrArg List.length (List.append_cancel_left hplace)
    rw [List.length_take] at hlength
    omega

/-- A path of names leads where it led, and nowhere if it led nowhere. -/
theorem locate (names : path.Names) (place : Place) :
    fs'.locate path = .ok place ↔ fs.locate path = .ok place := by
  constructor
  · intro leads
    unfold FileSystem.locate at leads ⊢
    split at leads
    · cases leads
    · next hfault =>
      rw [start_of_names fs' names, gains.here] at leads
      obtain ⟨rfl, hshort, hseen⟩ :=
        walk_of_names names (FilePath.ne_nil_of_fault? hfault) leads
      rw [gains.glance_end] at hseen
      rw [start_of_names fs names]
      exact walk_of_glance names hshort hseen
  · exact locate_of_keeps gains.here gains.keeps

/-- What is seen there is the same. -/
theorem glance_located (names : path.Names) {place : Place} (leads : fs.locate path = .ok place) :
    fs'.tree.glance place = fs.tree.glance place := by
  unfold FileSystem.locate at leads
  split at leads
  · cases leads
  · next hfault =>
    rw [start_of_names fs names] at leads
    obtain ⟨rfl, _⟩ := walk_of_names names (FilePath.ne_nil_of_fault? hfault) leads
    exact gains.glance_end

end GainsParents

/-! ## Reading -/

/-- What is read at a path depends on where it leads and what is seen there. -/
theorem read_eq (fs : FileSystem) (path : FilePath) :
    fs.read path = (fs.locate path).bind fun place =>
      match fs.tree.glance place with
      | some (.file bytes) => .ok bytes
      | some .folder => .error .isFolder
      | none => .error .missing := by
  unfold FileSystem.read
  cases fs.locate path with
  | error e => rfl
  | ok place =>
    simp only [bind, Except.bind, glance]
    cases fs.tree.find? place with
    | none => rfl
    | some t => cases t <;> rfl

end FileSystem

end RemotePad
