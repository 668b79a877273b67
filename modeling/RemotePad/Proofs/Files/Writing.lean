import RemotePad.FileSystem
import RemotePad.Proofs.Files.Tree

/-!
# Files that stay where they were written

* `FileSystem.step_of_keeps`, `locate_of_keeps`: where folders stay folders and files stay files, a
  path that led somewhere still leads there.
* `FileSystem.target` is where a write puts the file, and `write_eq` says that nothing else about
  the write depends on the bytes.
* `FileSystem.Holds`: a path leads to a place with certain bytes.  A write makes it so
  (`holds_put`), reading finds it so (`Holds.read`), and other places may change
  (`Holds.of_keeps`).
* `FileSystem.glance_makeFolders`: making folders changes nothing that is there.
-/

namespace RemotePad

/-- A part that is a name is entered under this name. -/
theorem FilePath.Step.eq_of_ofPart {part name : FileName}
    (enters : FilePath.Step.ofPart part = .enter name) : name = part := by
  unfold FilePath.Step.ofPart at enters
  split at enters
  · cases enters
  · cases enters
  · cases enters
  · cases enters
    rfl

theorem FilePath.ne_nil_of_fault? {path : FilePath} (faultless : path.fault? = none) :
    path ≠ [] := by
  rintro rfl
  cases faultless

namespace FileSystem

open FileTree FilePath.Step

variable {tree tree' : FileTree} {fs : FileSystem} {path : FilePath} {place : Place}

/-! ## Steps -/

/-- What a step does in a folder depends on what is seen in it. -/
theorem step_eq (inside : tree.glance place = some .folder) (part : FileName) :
    step tree place part =
      match FilePath.Step.ofPart part with
      | .stay => .ok place
      | .up => .ok place.dropLast
      | .enter name =>
        if FilePath.nameLimit < (Utf8.encode name).length then .error .tooLong
        else if (tree.glance (place ++ [name])).isSome then .ok (place ++ [name])
        else .error .missing := by
  obtain ⟨entries, hentries⟩ := glance_eq_folder.mp inside
  rw [step, hentries]
  dsimp only
  cases ofPart part with
  | stay => rfl
  | up => rfl
  | enter name =>
    dsimp only
    rw [glance_child hentries, Option.isSome_map]

/-- Outside a folder there are no steps. -/
theorem inside_of_step {part : FileName} (goes : step tree place part ≠ .error .notFolder) :
    tree.glance place = some .folder := by
  unfold step at goes
  split at goes
  · next entries hentries => exact glance_eq_folder.mpr ⟨entries, hentries⟩
  · exact absurd rfl goes

/-- A name under which something may stand in a folder. -/
structure Named (tree : FileTree) (folder : Place) (name : FileName) : Prop where
  inside : tree.glance folder = some .folder
  enters : ofPart name = .enter name
  short : (Utf8.encode name).length ≤ FilePath.nameLimit

/-- If something does, the step leads there. -/
theorem Named.step {folder : Place} {name : FileName} (named : Named tree folder name)
    (there : (tree.glance (folder ++ [name])).isSome) :
    step tree folder name = .ok (folder ++ [name]) := by
  rw [step_eq named.inside, named.enters]
  simp only [Nat.not_lt.mpr named.short, if_false, there, if_true]

/-- A step fails for want of something only under a name. -/
theorem named_of_missing {part : FileName} (missing : step tree place part = .error .missing) :
    Named tree place part ∧ tree.glance (place ++ [part]) = none := by
  have inside : tree.glance place = some .folder := inside_of_step (by rw [missing]; nofun)
  rw [step_eq inside] at missing
  split at missing
  · cases missing
  · cases missing
  · next name hname =>
    obtain rfl := eq_of_ofPart hname
    split at missing
    · cases missing
    · next hshort =>
      split at missing
      · cases missing
      · next hthere =>
        exact ⟨⟨inside, hname, Nat.le_of_not_lt hshort⟩, Option.not_isSome_iff_eq_none.mp hthere⟩

/-- A step leads to something that is no folder only under a name. -/
theorem named_of_not_folder {part : FileName} {next : Place}
    (goes : step tree place part = .ok next) (file : tree.glance next ≠ some .folder) :
    Named tree place part ∧ next = place ++ [part] := by
  have inside : tree.glance place = some .folder := inside_of_step (by rw [goes]; nofun)
  rw [step_eq inside] at goes
  split at goes
  · cases goes
    exact absurd inside file
  · cases goes
    exact absurd (glance_dropLast inside) file
  · next name hname =>
    obtain rfl := eq_of_ofPart hname
    split at goes
    · cases goes
    · next hshort =>
      split at goes
      · cases goes
        exact ⟨⟨inside, hname, Nat.le_of_not_lt hshort⟩, rfl⟩
      · cases goes

/-! ## Paths -/

theorem step_of_keeps (kept : tree.Keeps tree') {part : FileName} {next : Place}
    (goes : step tree place part = .ok next) : step tree' place part = .ok next := by
  have inside : tree.glance place = some .folder := inside_of_step (by rw [goes]; nofun)
  rw [step_eq inside] at goes
  rw [step_eq (kept.folders place inside)]
  split at goes
  · exact goes
  · exact goes
  · split at goes
    · cases goes
    · next hshort =>
      split at goes
      · next hthere => rw [if_neg hshort, if_pos (kept.isSome hthere)]; exact goes
      · cases goes

theorem walk_cons (tree : FileTree) (place : Place) (part : FileName) (path : FilePath) :
    walk tree place (part :: path) = (step tree place part).bind fun next => walk tree next path :=
  rfl

theorem walk_append (tree : FileTree) (place : Place) (path path' : FilePath) :
    walk tree place (path ++ path') =
      (walk tree place path).bind fun next => walk tree next path' :=
  List.foldlM_append

theorem walk_of_keeps (kept : tree.Keeps tree') {next : Place}
    (goes : walk tree place path = .ok next) : walk tree' place path = .ok next := by
  induction path generalizing place with
  | nil => exact goes
  | cons part path ih =>
    rw [walk_cons] at goes ⊢
    cases hstep : step tree place part with
    | error e =>
      rw [hstep] at goes
      cases goes
    | ok middle =>
      rw [hstep] at goes
      rw [step_of_keeps kept hstep]
      exact ih goes

theorem locate_of_keeps {fs' : FileSystem} (here : fs'.here = fs.here)
    (kept : fs.tree.Keeps fs'.tree) (leads : fs.locate path = .ok place) :
    fs'.locate path = .ok place := by
  have start : fs'.start path = fs.start path := by rw [FileSystem.start, FileSystem.start, here]
  unfold locate at leads ⊢
  split at leads
  · cases leads
  · rw [start]
    exact walk_of_keeps kept leads

/-! ## Files -/

/-- Where a write puts the file. -/
def target (fs : FileSystem) (path : FilePath) : Except FileError Place :=
  match path.fault? with
  | some e => .error e
  | none => do
    let folder ← walk fs.tree (fs.start path) path.dropLast
    let last := path.getLastD []
    match step fs.tree folder last with
    | .ok place =>
      match fs.tree.find? place with
      | some (.file _) => .ok place
      | _ => .error .isFolder
    | .error .missing => .ok (folder ++ [last])
    | .error e => .error e

/-- A write puts the bytes at its place. -/
theorem write_eq (fs : FileSystem) (path : FilePath) (bytes : List UInt8) :
    fs.write path bytes = (fs.target path).map fun place => fs.put place (.file bytes) := by
  unfold write target
  cases path.fault? with
  | some e => rfl
  | none =>
    cases walk fs.tree (fs.start path) path.dropLast with
    | error e => rfl
    | ok folder =>
      simp only [bind, Except.bind]
      cases step fs.tree folder (path.getLastD []) with
      | error e => cases e <;> rfl
      | ok place =>
        dsimp only
        cases fs.tree.find? place with
        | none => rfl
        | some t => cases t <;> rfl

/-- The place is one in a folder, to which the path leads, and no folder itself. -/
structure Lands (fs : FileSystem) (path : FilePath) (folder : Place) (name : FileName) :
    Prop extends Named fs.tree folder name where
  faultless : path.fault? = none
  last : path.getLastD [] = name
  leads : walk fs.tree (fs.start path) path.dropLast = .ok folder
  free : fs.tree.glance (folder ++ [name]) ≠ some .folder

theorem lands_of_target (writes : fs.target path = .ok place) :
    ∃ folder name, place = folder ++ [name] ∧ Lands fs path folder name := by
  unfold target at writes
  split at writes
  · cases writes
  · next hfault =>
    cases hwalk : walk fs.tree (fs.start path) path.dropLast with
    | error e =>
      rw [hwalk] at writes
      cases writes
    | ok folder =>
      rw [hwalk] at writes
      simp only [bind, Except.bind] at writes
      refine ⟨folder, path.getLastD [], ?_⟩
      split at writes
      · next next hstep =>
        split at writes
        · next bytes hfile =>
          cases writes
          have file : fs.tree.glance place ≠ some .folder := by
            rw [glance_eq_file.mpr hfile]
            nofun
          obtain ⟨hnamed, rfl⟩ := named_of_not_folder hstep file
          exact ⟨rfl, hnamed, hfault, rfl, hwalk, file⟩
        · cases writes
      · next hstep =>
        cases writes
        obtain ⟨hnamed, hfree⟩ := named_of_missing hstep
        exact ⟨rfl, hnamed, hfault, rfl, hwalk, by rw [hfree]; nofun⟩
      · cases writes

section Put

variable (writes : fs.target path = .ok place) (bytes : List UInt8)

include writes

/-- A write changes what is seen at its place, and nowhere else. -/
theorem glance_put_file (other : Place) :
    (fs.put place (.file bytes)).tree.glance other =
      if other = place then some (.file bytes) else fs.tree.glance other := by
  obtain ⟨folder, name, rfl, hlands⟩ := lands_of_target writes
  exact glance_put (leaf_file bytes) hlands.inside hlands.free other

theorem keeps_put_file : fs.tree.Keeps (fs.put place (.file bytes)).tree where
  folders := fun other hfolder => by
    obtain ⟨folder, name, rfl, hlands⟩ := lands_of_target writes
    have hne : other ≠ folder ++ [name] := by
      rintro rfl
      exact hlands.free hfolder
    rw [glance_put_file writes, if_neg hne, hfolder]
  files := fun other bytes' hfile => by
    rw [glance_put_file writes]
    split
    · exact ⟨bytes, rfl⟩
    · exact ⟨bytes', hfile⟩

end Put

/-- The path leads to the place, and the file there has the bytes. -/
structure Holds (fs : FileSystem) (path : FilePath) (place : Place) (bytes : List UInt8) :
    Prop where
  leads : fs.locate path = .ok place
  file : fs.tree.glance place = some (.file bytes)

/-- What was written is there. -/
theorem holds_put (writes : fs.target path = .ok place) (bytes : List UInt8) :
    Holds (fs.put place (.file bytes)) path place bytes := by
  have hfile : (fs.put place (.file bytes)).tree.glance place = some (.file bytes) := by
    rw [glance_put_file writes, if_pos rfl]
  refine ⟨?_, hfile⟩
  have hkeeps := keeps_put_file writes bytes
  obtain ⟨folder, name, rfl, hlands⟩ := lands_of_target writes
  have hwalk := walk_of_keeps hkeeps hlands.leads
  have hstep : step (fs.put (folder ++ [name]) (.file bytes)).tree folder name =
      .ok (folder ++ [name]) :=
    Named.step ⟨hkeeps.folders _ hlands.inside, hlands.enters, hlands.short⟩
      (Option.isSome_of_eq_some hfile)
  have hpath : path = path.dropLast ++ [name] := by
    have hne := FilePath.ne_nil_of_fault? hlands.faultless
    rw [← hlands.last, List.getLastD_eq_getLast?, List.getLast?_eq_some_getLast hne,
      Option.getD_some, List.dropLast_concat_getLast]
  have hstart : (fs.put (folder ++ [name]) (.file bytes)).start path = fs.start path := rfl
  rw [locate, hlands.faultless, hstart]
  show walk _ _ path = _
  rw [hpath, walk_append, ← hpath, hwalk]
  simp only [Except.bind, walk_cons, hstep]
  rfl

namespace Holds

variable {bytes : List UInt8}

theorem contains (holds : Holds fs path place bytes) : fs.contains path = true := by
  rw [FileSystem.contains, holds.leads]
  rfl

/-- Reading finds the bytes. -/
theorem read (holds : Holds fs path place bytes) : fs.read path = .ok bytes := by
  have hfile := glance_eq_file.mp holds.file
  simp only [FileSystem.read, holds.leads, bind, Except.bind, hfile]

/-- Other places may change. -/
theorem of_keeps {fs' : FileSystem} (holds : Holds fs path place bytes)
    (here : fs'.here = fs.here) (kept : fs.tree.Keeps fs'.tree)
    (spared : fs'.tree.glance place = fs.tree.glance place) : Holds fs' path place bytes :=
  ⟨locate_of_keeps here kept holds.leads, spared.trans holds.file⟩

end Holds

/-! ## Folders -/

/-- Making folders changes nothing that is there. -/
theorem glance_makeWay (tree : FileTree) (place : Place) (path : FilePath) {other : Place}
    (there : (tree.glance other).isSome) :
    (makeWay tree place path).2.glance other = tree.glance other := by
  induction path generalizing tree place with
  | nil =>
    unfold makeWay
    split
    · rfl
    · rfl
  | cons part path ih =>
    unfold makeWay
    split
    · exact ih tree _ there
    · next hmissing =>
      obtain ⟨hnamed, hfree⟩ := named_of_missing hmissing
      have hput := glance_put leaf_folder hnamed.inside (by rw [hfree]; nofun) other
      have hne : other ≠ place ++ [part] := by
        rintro rfl
        rw [hfree] at there
        cases there
      rw [if_neg hne] at hput
      rw [← hput] at there ⊢
      exact ih _ _ there
    · rfl

theorem glance_makeFolders (fs : FileSystem) (path : FilePath) {other : Place}
    (there : (fs.tree.glance other).isSome) :
    (fs.makeFolders path).2.tree.glance other = fs.tree.glance other := by
  unfold makeFolders
  split
  · rfl
  · exact glance_makeWay fs.tree _ path there

theorem here_makeFolders (fs : FileSystem) (path : FilePath) :
    (fs.makeFolders path).2.here = fs.here := by
  unfold makeFolders
  split
  · rfl
  · rfl

theorem Holds.makeFolders {bytes : List UInt8} (holds : Holds fs path place bytes)
    (folders : FilePath) : Holds (fs.makeFolders folders).2 path place bytes := by
  have same : ∀ other, (fs.tree.glance other).isSome →
      (fs.makeFolders folders).2.tree.glance other = fs.tree.glance other :=
    fun other there => glance_makeFolders fs folders there
  refine holds.of_keeps (here_makeFolders fs folders) ⟨?_, ?_⟩
    (same place (Option.isSome_of_eq_some holds.file))
  · exact fun other h => (same other (Option.isSome_of_eq_some h)).trans h
  · exact fun other bytes' h => ⟨bytes', (same other (Option.isSome_of_eq_some h)).trans h⟩

end FileSystem

end RemotePad
