import RemotePad.Proofs.Files.Names
import RemotePad.Proofs.Settings.Store

/-!
# Saves that fail

A save makes the missing parents of a file, finds the written form and writes the file, in this
order.  When one of these fails, the file has not been touched.

* `SaveFault` lists what a save can fail for; `save_eq_error_iff` says that it fails for nothing
  else.
* `load_of_gainsParents`: new folders above a path do not matter to what is loaded there.
* `failed_save_damages_nothing` is what a failed save leaves.
-/

namespace RemotePad

namespace Settings

open FileSystem

variable {s : Settings} {path : FilePath} {fs : FileSystem} {e : SettingsError}

/-! ## What a save fails for -/

/-- What a save fails for: the first thing, in the order in which it goes on. -/
inductive SaveFault (s : Settings) (path : FilePath) (fs : FileSystem) : SettingsError → Prop where
  /-- The parents cannot be made. -/
  | parents {f : FileError} (unmade : (makeParents path fs).1 = .error f) :
      SaveFault s path fs (.io f.message)
  /-- A number has more than 63 bits. -/
  | numbers (made : (makeParents path fs).1 = .ok ())
      (large : 2 ^ 63 - 1 < s.recvTimeoutMs.toNat ∨ 2 ^ 63 - 1 < s.queueCapacity.toNat) :
      SaveFault s path fs .serialize
  /-- The file cannot be written, whatever is to be in it. -/
  | file {f : FileError} (made : (makeParents path fs).1 = .ok ())
      (small : s.recvTimeoutMs.toNat ≤ 2 ^ 63 - 1 ∧ s.queueCapacity.toNat ≤ 2 ^ 63 - 1)
      (refused : ∀ bytes, (makeParents path fs).2.write path bytes = .error f) :
      SaveFault s path fs (.io f.message)

theorem save_eq_error_iff : (s.save path fs).1 = .error e ↔ SaveFault s path fs e := by
  constructor
  · intro failed
    unfold save at failed
    split at failed
    · next f prepared hparents =>
      obtain rfl := Except.error.inj failed
      exact .parents (by rw [hparents])
    · next prepared hparents =>
      have made : (makeParents path fs).1 = .ok () := by rw [hparents]
      split at failed
      · next hnone =>
        obtain rfl := Except.error.inj failed
        have hlarge : ¬ (s.recvTimeoutMs.toNat ≤ tomlMax ∧ s.queueCapacity.toNat ≤ tomlMax) :=
          fun small => nomatch (if_pos small).symm.trans hnone
        unfold tomlMax at hlarge
        exact .numbers made (by omega)
      · next text htext =>
        obtain ⟨small, _⟩ := toToml?_eq_some_iff.mp htext
        split at failed
        · next f hwrite =>
          obtain rfl := Except.error.inj failed
          refine .file made small fun bytes => ?_
          rw [hparents]
          rw [write_eq] at hwrite ⊢
          cases htarget : prepared.target path with
          | error f' => rwa [htarget] at hwrite
          | ok place =>
            rw [htarget] at hwrite
            cases hwrite
        · cases failed
  · intro fault
    rcases hmade : makeParents path fs with ⟨result, prepared⟩
    cases fault with
    | parents unmade =>
      rw [hmade] at unmade
      cases unmade
      rw [save, hmade]
      rfl
    | numbers made large =>
      rw [hmade] at made
      cases made
      have hnone : s.toToml? = none := if_neg (by unfold tomlMax; omega)
      rw [save, hmade, hnone]
    | file made small refused =>
      rw [hmade] at made refused
      cases made
      have hsome : s.toToml? = some s.tomlLines := toToml?_eq_some_iff.mpr ⟨small, rfl⟩
      simp only [save, hmade, hsome, refused]
      rfl

/-! ## What a failed save leaves -/

/-- A failed save has made parents, and nothing else. -/
theorem gainsParents_of_failed (names : path.Names) (failed : (s.save path fs).1 = .error e) :
    GainsParents path fs (s.save path fs).2 := by
  rcases s.save_cases path fs with ⟨_, hsave⟩ | ⟨_, _, _, hsave⟩
  · rw [hsave, makeParents, names.parent]
    split
    · exact .refl path fs
    · exact .makeFolders names fs
  · rw [hsave] at failed
    cases failed

/-- New folders above a path do not matter to what is loaded there. -/
theorem load_of_gainsParents {fs' : FileSystem} (names : path.Names)
    (gains : GainsParents path fs fs') : load path fs' = load path fs := by
  have hlocate := gains.locate names
  unfold load readFile contains
  rw [read_eq, read_eq]
  cases hfs : fs.locate path with
  | ok place =>
    rw [(hlocate place).mpr hfs]
    simp only [Except.bind, gains.glance_located names hfs]
  | error f =>
    cases hfs' : fs'.locate path with
    | ok place =>
      have hboth := (hlocate place).mp hfs'
      rw [hfs] at hboth
      cases hboth
    | error f' => rfl

/-- A save at a path of names that fails, for whatever reason it can fail for: every file has the
content that it had, no file is new, and the path is loaded with the same result as before.  Only
folders above the path were added, where there was nothing. -/
theorem failed_save_damages_nothing (s : Settings) (path : FilePath) (fs : FileSystem)
    (e : SettingsError) (names : path.Names) (failed : (s.save path fs).1 = .error e) :
    let after := (s.save path fs).2
    SaveFault s path fs e ∧
    (∀ place bytes,
      after.tree.glance place = some (.file bytes) ↔ fs.tree.glance place = some (.file bytes)) ∧
    load path after = load path fs ∧
    after.here = fs.here ∧
    ∀ place, after.tree.glance place ≠ fs.tree.glance place →
      fs.tree.glance place = none ∧ after.tree.glance place = some .folder ∧
        ∃ k, 0 < k ∧ k < path.length ∧ place = fs.here ++ path.take k := by
  intro after
  have gains : GainsParents path fs after := gainsParents_of_failed names failed
  exact ⟨save_eq_error_iff.mp failed, gains.files, load_of_gainsParents names gains, gains.here,
    gains.added⟩

/-- Settings are kept in a file.  Others with too great a number are saved in their place, and
below folders that have to be made for them; then the folder of the file is written to. -/
theorem failed_save_damages_nothing_kept :
    let kept : Settings := { (default : Settings) with version := 7 }
    let large : Settings := { kept with queueCapacity := 0x8000000000000000 }
    let file := FilePath.ofText "conf/bridge.toml"
    let below := FilePath.ofText "new/deep/bridge.toml"
    let folder := FilePath.ofText "conf"
    let fs := (kept.save file (.empty "home".toList)).2
    (file.Names ∧ (large.save file fs).1 = .error .serialize ∧
      load file (large.save file fs).2 = .ok kept) ∧
    (below.Names ∧ (large.save below fs).1 = .error .serialize ∧
      load below (large.save below fs).2 = .ok default) ∧
    folder.Names ∧ (kept.save folder fs).1 = .error (.io "is a directory") ∧
      load folder (kept.save folder fs).2 = .error (.io "is a directory") := by
  intro kept large file below folder fs
  have same : ∀ (s : Settings) (path : FilePath) (e : SettingsError), path.Names →
      (s.save path fs).1 = .error e → load path (s.save path fs).2 = load path fs :=
    fun s path e names failed => (failed_save_damages_nothing s path fs e names failed).2.2.1
  have hfile : file.Names ∧ (large.save file fs).1 = .error .serialize := by decide +kernel
  have hbelow : below.Names ∧ (large.save below fs).1 = .error .serialize := by decide +kernel
  have hfolder : folder.Names ∧ (kept.save folder fs).1 = .error (.io "is a directory") := by
    decide +kernel
  exact ⟨⟨hfile.1, hfile.2, (same _ _ _ hfile.1 hfile.2).trans (by decide +kernel)⟩,
    ⟨hbelow.1, hbelow.2, (same _ _ _ hbelow.1 hbelow.2).trans (by decide +kernel)⟩,
    hfolder.1, hfolder.2, (same _ _ _ hfolder.1 hfolder.2).trans (by decide +kernel)⟩

end Settings

end RemotePad
