import RemotePad.FileTree

/-!
# What stands where in a tree

* `FileTree.glance` is what one sees at a place: a folder or the bytes of a file.
* `FileTree.glance_put`: putting a file or an empty folder into a folder changes what is seen at
  its own place, and nowhere else.
* `FileTree.Keeps`: folders stay folders and files stay files, though with other bytes.
-/

namespace RemotePad

/-- What one sees of a tree from above. -/
inductive FileSight where
  | file (bytes : List UInt8)
  | folder
  deriving Repr, DecidableEq

namespace FileTree

variable {tree tree' : FileTree} {place : Place}

/-- The tree without what is in it. -/
def sight : FileTree → FileSight
  | .file bytes => .file bytes
  | .folder _ => .folder

/-- What one sees at a place. -/
def glance (tree : FileTree) (place : Place) : Option FileSight :=
  (tree.find? place).map sight

theorem glance_eq_folder :
    tree.glance place = some .folder ↔ ∃ entries, tree.find? place = some (.folder entries) := by
  rw [glance, Option.map_eq_some_iff]
  constructor
  · rintro ⟨t, hfound, hsight⟩
    cases t with
    | file bytes => cases hsight
    | folder entries => exact ⟨entries, hfound⟩
  · rintro ⟨entries, hfound⟩
    exact ⟨.folder entries, hfound, rfl⟩

theorem glance_eq_file {bytes : List UInt8} :
    tree.glance place = some (.file bytes) ↔ tree.find? place = some (.file bytes) := by
  rw [glance, Option.map_eq_some_iff]
  constructor
  · rintro ⟨t, hfound, hsight⟩
    cases t with
    | file bytes' =>
      cases hsight
      exact hfound
    | folder entries => cases hsight
  · intro hfound
    exact ⟨.file bytes, hfound, rfl⟩

/-- What is seen in a folder is what has the name. -/
theorem glance_child {entries : List (FileName × FileTree)}
    (found : tree.find? place = some (.folder entries)) (name : FileName) :
    tree.glance (place ++ [name]) = (child? entries name).map sight := by
  rw [glance, find?_append, found, Option.bind_some, find?]
  cases child? entries name <;> rfl

/-- The folder around a folder is one; the root is the folder around itself. -/
theorem glance_dropLast (inside : tree.glance place = some .folder) :
    tree.glance place.dropLast = some .folder := by
  obtain ⟨entries, hentries⟩ := glance_eq_folder.mp inside
  by_cases below : place = []
  · rw [below, List.dropLast_nil, ← below, inside]
  · rw [← List.dropLast_concat_getLast below, find?_append] at hentries
    obtain ⟨t, hfound, ht⟩ := Option.bind_eq_some_iff.mp hentries
    cases t with
    | file bytes => cases ht
    | folder around => exact glance_eq_folder.mpr ⟨around, hfound⟩

theorem glance_folder_cons (entries : List (FileName × FileTree)) (name : FileName)
    (place : Place) :
    (FileTree.folder entries).glance (name :: place) =
      (child? entries name).bind fun t => t.glance place := by
  rw [glance, find?]
  cases child? entries name <;> rfl

/-! ## Putting something into a folder -/

/-- There is nothing inside. -/
def Leaf (t : FileTree) : Prop :=
  ∀ name rest, t.find? (name :: rest) = none

theorem leaf_file (bytes : List UInt8) : Leaf (.file bytes) := fun _ _ => rfl

theorem leaf_folder : Leaf (.folder []) := fun _ _ => rfl

theorem Leaf.glance_cons {t : FileTree} (leaf : t.Leaf) (name : FileName) (place : Place) :
    t.glance (name :: place) = none := by
  rw [glance, leaf name place, Option.map_none]

/-- Where there is no folder, nothing is seen below. -/
theorem glance_below {name next : FileName} {rest : Place}
    (free : tree.glance [name] ≠ some .folder) : tree.glance (name :: next :: rest) = none := by
  cases tree with
  | file bytes => rfl
  | folder entries =>
    rw [glance_folder_cons] at free ⊢
    cases hchild : child? entries name with
    | none => rfl
    | some t =>
      rw [hchild] at free
      cases t with
      | file bytes => rfl
      | folder below => exact absurd rfl free

/-- A new entry is seen under its name, and the others as before. -/
theorem glance_putChild_cons (entries : List (FileName × FileTree)) (name : FileName)
    (t : FileTree) (first : FileName) (rest : Place) :
    (FileTree.folder (putChild entries name t)).glance (first :: rest) =
      if name = first then t.glance rest else (FileTree.folder entries).glance (first :: rest) := by
  rw [glance_folder_cons, glance_folder_cons, child?_putChild]
  split
  · rfl
  · rfl

/-- So is everything else in the folder, if nothing is inside the new entry or the old one. -/
theorem glance_putChild {entries : List (FileName × FileTree)} {name : FileName} {t : FileTree}
    (leaf : t.Leaf) (free : (FileTree.folder entries).glance [name] ≠ some .folder)
    (place : Place) :
    (FileTree.folder (putChild entries name t)).glance place =
      if place = [name] then some t.sight else (FileTree.folder entries).glance place := by
  cases place with
  | nil => rfl
  | cons first rest =>
    rw [glance_putChild_cons]
    by_cases hsame : name = first
    · subst hsame
      rw [if_pos rfl]
      cases rest with
      | nil => exact (if_pos rfl).symm
      | cons next rest => rw [leaf.glance_cons, glance_below free, if_neg (by simp)]
    · have hother : first :: rest ≠ [name] := fun h => hsame (List.cons.inj h).1.symm
      rw [if_neg hsame, if_neg hother]

/-- What is put into a folder, in place of no other folder, is seen at its place only. -/
theorem glance_put {folder : Place} {name : FileName} {t : FileTree} (leaf : t.Leaf)
    (inside : tree.glance folder = some .folder)
    (free : tree.glance (folder ++ [name]) ≠ some .folder) (place : Place) :
    (tree.put (folder ++ [name]) t).glance place =
      if place = folder ++ [name] then some t.sight else tree.glance place := by
  induction folder generalizing tree place with
  | nil =>
    obtain ⟨entries, hentries⟩ := glance_eq_folder.mp inside
    cases hentries
    exact glance_putChild leaf free place
  | cons first folder ih =>
    cases tree with
    | file bytes => cases inside
    | folder above =>
      rw [List.cons_append] at free ⊢
      rw [glance_folder_cons] at inside free
      cases hbelow : child? above first with
      | none =>
        rw [hbelow] at inside
        cases inside
      | some below =>
        rw [hbelow] at inside free
        have hput : (FileTree.folder above).put (first :: (folder ++ [name])) t =
            .folder (putChild above first (below.put (folder ++ [name]) t)) := by
          rw [put, hbelow]
          rfl
        rw [hput]
        cases place with
        | nil => rfl
        | cons next rest =>
          rw [glance_putChild_cons]
          by_cases hsame : first = next
          · subst hsame
            rw [if_pos rfl, ih inside free rest, glance_folder_cons, hbelow, Option.bind_some]
            simp only [List.cons.injEq, true_and]
          · have hother : next :: rest ≠ first :: (folder ++ [name]) :=
              fun h => hsame (List.cons.inj h).1.symm
            rw [if_neg hsame, if_neg hother]

/-! ## Trees that keep what they have -/

/-- Folders stay folders and files stay files, though with other bytes. -/
structure Keeps (tree tree' : FileTree) : Prop where
  folders : ∀ place, tree.glance place = some .folder → tree'.glance place = some .folder
  files : ∀ place bytes, tree.glance place = some (.file bytes) →
    ∃ bytes', tree'.glance place = some (.file bytes')

/-- Whatever was there is still there. -/
theorem Keeps.isSome (kept : tree.Keeps tree') (seen : (tree.glance place).isSome) :
    (tree'.glance place).isSome := by
  obtain ⟨s, hs⟩ := Option.isSome_iff_exists.mp seen
  cases s with
  | file bytes =>
    obtain ⟨bytes', h⟩ := kept.files place bytes hs
    exact Option.isSome_of_eq_some h
  | folder => exact Option.isSome_of_eq_some (kept.folders place hs)

end FileTree

end RemotePad
