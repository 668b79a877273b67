import RemotePad.Proofs.Files.Writing
import RemotePad.Proofs.Settings.Toml
import RemotePad.Proofs.Text.Utf8
import RemotePad.Settings.Store

/-!
# Settings that are found again

* `Settings.save_of_sayable` and `save_of_not_sayable`: what saving does at a path that can be
  written.
* `FileChange` is anything that happens to files, `FileChange.Overwrites` says that it writes the
  file of a path, and `LeavesAlone` that none of several changes does.
* `Settings.load_of_saved`: the file holds the settings through all such changes.
* `Settings.load_save`: settings are saved exactly when their numbers can be said, and are loaded
  again until the file is written once more.
-/

namespace RemotePad

open FileSystem FileTree

/-! ## Saving -/

namespace Settings

variable {path : FilePath} {fs : FileSystem} {s : Settings}

/-- The parents of the path can be made, and then some bytes can be written to it. -/
def Writable (path : FilePath) (fs : FileSystem) : Prop :=
  (makeParents path fs).1 = .ok () ∧
    ∃ bytes written, (makeParents path fs).2.write path bytes = .ok written

/-- Whether a path can be written does not depend on the bytes. -/
theorem Writable.target (writable : Writable path fs) :
    makeParents path fs = (.ok (), (makeParents path fs).2) ∧
      ∃ place, (makeParents path fs).2.target path = .ok place := by
  obtain ⟨hparents, bytes, written, hwrite⟩ := writable
  refine ⟨Prod.ext hparents rfl, ?_⟩
  rw [write_eq] at hwrite
  cases htarget : (makeParents path fs).2.target path with
  | error e =>
    rw [htarget] at hwrite
    cases hwrite
  | ok place => exact ⟨place, rfl⟩

/-- Settings without a written form leave the file as it is. -/
theorem save_of_not_sayable (writable : Writable path fs) (unsayable : ¬ s.Sayable) :
    s.save path fs = (.error .serialize, (makeParents path fs).2) := by
  have hparents := writable.target.1
  have hnone : s.toToml? = none := if_neg unsayable
  rw [save, hparents, hnone]

/-- Any others are written. -/
theorem save_of_sayable {prepared : FileSystem} {place : Place}
    (parents : makeParents path fs = (.ok (), prepared))
    (writes : prepared.target path = .ok place) (sayable : s.Sayable) :
    s.save path fs = (.ok (), prepared.put place (.file (Utf8.encode s.tomlLines))) := by
  have hsome : s.toToml? = some s.tomlLines := toToml?_eq_some_iff.mpr ⟨sayable, rfl⟩
  simp only [save, parents, hsome, write_eq, writes, Except.map]

/-- A save fails and leaves it at the parents, or it writes the file. -/
theorem save_cases (s : Settings) (path : FilePath) (fs : FileSystem) :
    (∃ e, s.save path fs = (.error e, (makeParents path fs).2)) ∨
      s.Sayable ∧ ∃ place, (makeParents path fs).2.target path = .ok place ∧
        s.save path fs =
          (.ok (), (makeParents path fs).2.put place (.file (Utf8.encode s.tomlLines))) := by
  rcases hparents : makeParents path fs with ⟨result, prepared⟩
  cases result with
  | error e => exact Or.inl ⟨_, by rw [save, hparents]⟩
  | ok =>
    by_cases sayable : s.Sayable
    · cases htarget : prepared.target path with
      | error e =>
        have hsome : s.toToml? = some s.tomlLines := toToml?_eq_some_iff.mpr ⟨sayable, rfl⟩
        refine Or.inl ⟨ofFileError e, ?_⟩
        simp only [save, hparents, hsome, write_eq, htarget, Except.map]
      | ok place =>
        exact Or.inr ⟨sayable, place, rfl, save_of_sayable hparents htarget sayable⟩
    · have hnone : s.toToml? = none := if_neg sayable
      exact Or.inl ⟨_, by rw [save, hparents, hnone]⟩

/-- A file with the written form is loaded as the settings. -/
theorem load_of_holds {place : Place} (sayable : s.Sayable)
    (holds : Holds fs path place (Utf8.encode s.tomlLines)) : load path fs = .ok s := by
  have hread : ofToml? s.tomlLines = some s :=
    ofToml?_of_toToml? (toToml?_eq_some_iff.mpr ⟨sayable, rfl⟩)
  rw [load, if_pos holds.contains, readFile, holds.read]
  simp only [Utf8.decode?_encode, hread]
  rfl

end Settings

/-! ## Changes -/

/-- Something that happens to files. -/
inductive FileChange where
  | write (path : FilePath) (bytes : List UInt8)
  | makeFolders (path : FilePath)
  | save (s : Settings) (path : FilePath)

namespace FileChange

/-- The path of the file that was written, if one was, and the file system afterwards. -/
def outcome (fs : FileSystem) : FileChange → Option FilePath × FileSystem
  | .write path bytes =>
    match fs.write path bytes with
    | .ok written => (some path, written)
    | .error _ => (none, fs)
  | .makeFolders path => (none, (fs.makeFolders path).2)
  | .save s path =>
    match s.save path fs with
    | (.ok (), saved) => (some path, saved)
    | (.error _, prepared) => (none, prepared)

/-- The change writes the file of the path, under this or another path that leads there. -/
def Overwrites (path : FilePath) (fs : FileSystem) (change : FileChange) : Prop :=
  ∃ written ∈ (change.outcome fs).1,
    (change.outcome fs).2.locate written = (change.outcome fs).2.locate path

instance (path : FilePath) (fs : FileSystem) (change : FileChange) :
    Decidable (change.Overwrites path fs) :=
  inferInstanceAs (Decidable (∃ written ∈ (change.outcome fs).1,
    (change.outcome fs).2.locate written = (change.outcome fs).2.locate path))

end FileChange

/-- The file system after several changes. -/
def afterChanges (changes : List FileChange) (fs : FileSystem) : FileSystem :=
  changes.foldl (fun fs change => (change.outcome fs).2) fs

/-- None of the changes writes the file of the path. -/
def LeavesAlone (path : FilePath) : List FileChange → FileSystem → Prop
  | [], _ => True
  | change :: changes, fs =>
    ¬ change.Overwrites path fs ∧ LeavesAlone path changes (change.outcome fs).2

instance decidableLeavesAlone (path : FilePath) :
    ∀ (changes : List FileChange) (fs : FileSystem), Decidable (LeavesAlone path changes fs)
  | [], _ => inferInstanceAs (Decidable True)
  | change :: changes, fs =>
    have := decidableLeavesAlone path changes (change.outcome fs).2
    inferInstanceAs (Decidable (¬ change.Overwrites path fs ∧
      LeavesAlone path changes (change.outcome fs).2))

section Kept

variable {path : FilePath} {fs : FileSystem} {place : Place} {bytes : List UInt8}

theorem FileSystem.Holds.makeParents (holds : Holds fs path place bytes) (other : FilePath) :
    Holds (Settings.makeParents other fs).2 path place bytes := by
  unfold Settings.makeParents
  split
  · exact holds
  · exact holds.makeFolders other.parent

/-- A file stays as it is when another one is written. -/
theorem holds_put_other (holds : Holds fs path place bytes) {other : FilePath} {target : Place}
    (writes : fs.target other = .ok target) {bytes' : List UInt8}
    (elsewhere : (fs.put target (.file bytes')).locate other ≠
      (fs.put target (.file bytes')).locate path) :
    Holds (fs.put target (.file bytes')) path place bytes := by
  have hhere : (fs.put target (.file bytes')).here = fs.here := rfl
  have hleads : (fs.put target (.file bytes')).locate path = .ok place :=
    locate_of_keeps hhere (keeps_put_file writes bytes') holds.leads
  have hne : place ≠ target := by
    rintro rfl
    rw [(holds_put writes bytes').leads, hleads] at elsewhere
    exact elsewhere rfl
  refine ⟨hleads, ?_⟩
  rw [glance_put_file writes, if_neg hne, holds.file]

/-- So it does with any change that does not write it. -/
theorem holds_outcome (holds : Holds fs path place bytes) {change : FileChange}
    (spared : ¬ change.Overwrites path fs) : Holds (change.outcome fs).2 path place bytes := by
  cases change with
  | write other bytes' =>
    cases htarget : fs.target other with
    | error e =>
      have houtcome : (FileChange.write other bytes').outcome fs = (none, fs) := by
        rw [FileChange.outcome, write_eq, htarget]
        rfl
      rw [houtcome]
      exact holds
    | ok target =>
      have houtcome : (FileChange.write other bytes').outcome fs =
          (some other, fs.put target (.file bytes')) := by
        rw [FileChange.outcome, write_eq, htarget]
        rfl
      rw [FileChange.Overwrites, houtcome] at spared
      rw [houtcome]
      exact holds_put_other holds htarget fun same => spared ⟨other, rfl, same⟩
  | makeFolders other => exact holds.makeFolders other
  | save s other =>
    have hprepared := holds.makeParents other
    rcases s.save_cases other fs with ⟨e, hsave⟩ | ⟨_, target, htarget, hsave⟩
    · have houtcome : (FileChange.save s other).outcome fs =
          (none, (Settings.makeParents other fs).2) := by
        rw [FileChange.outcome, hsave]
      rw [houtcome]
      exact hprepared
    · have houtcome : (FileChange.save s other).outcome fs =
          (some other, (Settings.makeParents other fs).2.put target
            (.file (Utf8.encode s.tomlLines))) := by
        rw [FileChange.outcome, hsave]
      rw [FileChange.Overwrites, houtcome] at spared
      rw [houtcome]
      exact holds_put_other hprepared htarget fun same => spared ⟨other, rfl, same⟩

theorem holds_afterChanges (holds : Holds fs path place bytes) {changes : List FileChange}
    (spared : LeavesAlone path changes fs) :
    Holds (afterChanges changes fs) path place bytes := by
  induction changes generalizing fs with
  | nil => exact holds
  | cons change changes ih => exact ih (holds_outcome holds spared.1) spared.2

end Kept

namespace Settings

variable {path : FilePath} {fs : FileSystem} {s : Settings}

/-- What was saved is loaded for as long as the file is left alone. -/
theorem load_of_saved (success : (s.save path fs).1 = .ok ()) {changes : List FileChange}
    (spared : LeavesAlone path changes (s.save path fs).2) :
    load path (afterChanges changes (s.save path fs).2) = .ok s := by
  rcases s.save_cases path fs with ⟨e, hsave⟩ | ⟨sayable, place, htarget, hsave⟩
  · rw [hsave] at success
    cases success
  · rw [hsave] at spared ⊢
    exact load_of_holds sayable (holds_afterChanges (holds_put htarget _) spared)

theorem save_eq_ok_iff (writable : Writable path fs) (s : Settings) :
    (s.save path fs).1 = .ok () ↔ s.Sayable := by
  constructor
  · intro success
    rcases s.save_cases path fs with ⟨e, hsave⟩ | ⟨sayable, _⟩
    · rw [hsave] at success
      cases success
    · exact sayable
  · intro sayable
    obtain ⟨hparents, place, htarget⟩ := writable.target
    rw [save_of_sayable hparents htarget sayable]

/-- At a path that can be written, settings are saved exactly when both of their long numbers are
of 63 bits, and fail to be written down otherwise.  What was saved is loaded until the file is
written again, and settings that were read from a text can be saved. -/
theorem load_save (writable : Writable path fs) (s : Settings) :
    ((s.save path fs).1 = .ok () ↔
      s.recvTimeoutMs.toNat ≤ 2 ^ 63 - 1 ∧ s.queueCapacity.toNat ≤ 2 ^ 63 - 1) ∧
    ((s.save path fs).1 ≠ .ok () → (s.save path fs).1 = .error .serialize) ∧
    ((s.save path fs).1 = .ok () → ∀ changes, LeavesAlone path changes (s.save path fs).2 →
      load path (afterChanges changes (s.save path fs).2) = .ok s) ∧
    ((∃ text, ofToml? text = some s) → (s.save path fs).1 = .ok ()) := by
  have hiff := save_eq_ok_iff writable s
  refine ⟨hiff, fun failed => ?_, fun success changes => load_of_saved success, ?_⟩
  · rw [save_of_not_sayable writable fun sayable => failed (hiff.mpr sayable)]
  · rintro ⟨text, read⟩
    exact hiff.mpr (sayable_of_ofToml? read)

/-- A scope, an embedded address and the greatest numbers, saved below a new folder; then another
file is written, and other settings fail to be saved. -/
theorem load_save_bridge :
    let fs := FileSystem.empty "home".toList
    let path := FilePath.ofText "conf/bridge.toml"
    let s : Settings := {
      localAddr := .v6 ⟨[0xFE80, 0, 0, 0, 0, 0, 0, 1], rfl⟩ 3 7948
      serverAddr := .v6 ⟨[0, 0, 0, 0, 0, 0xFFFF, 0x7F00, 1], rfl⟩ 0 65535
      recvTimeoutMs := 0x7FFFFFFFFFFFFFFF
      queueCapacity := 0x7FFFFFFFFFFFFFFF
      version := 0xFFFFFFFF }
    let changes : List FileChange :=
      [.write (FilePath.ofText "conf/other.toml") [1],
        .save { s with queueCapacity := 0x8000000000000000 } path]
    (s.save path fs).1 = .ok () ∧
      load path (afterChanges changes (s.save path fs).2) = .ok s := by
  intro fs path s changes
  have writable : Writable path fs := ⟨by rfl, [], _, by rfl⟩
  obtain ⟨hiff, _, hload, _⟩ := load_save writable s
  have success : (s.save path fs).1 = .ok () := hiff.mpr (by decide)
  have spared : LeavesAlone path changes (s.save path fs).2 := by decide +kernel
  exact ⟨success, hload success changes spared⟩

end Settings

end RemotePad
