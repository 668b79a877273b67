import RemotePad.FileSystem
import RemotePad.Settings.Toml

/-!
# Settings in files

* `Settings.load` reads a file; a path that leads nowhere stands for the default
  settings.
* `Settings.save` makes the missing parents of the file, then finds the written form,
  then writes the file.  Whatever fails, the steps after it are not taken, so no file
  changes unless all of it goes well.
-/

namespace RemotePad

namespace Settings

/-- What a file error means for settings. -/
def ofFileError (e : FileError) : SettingsError :=
  .io e.message

/-- Reads the settings of a file that is there. -/
def readFile (path : FilePath) (fs : FileSystem) : Except SettingsError Settings :=
  match fs.read path with
  | .error e => .error (ofFileError e)
  | .ok bytes =>
    match Utf8.decode? bytes with
    | none => .error (ofFileError .notText)
    | some text => (ofToml? text).elim (.error .parse) .ok

/-- Reads settings; where a path leads nowhere, these are the defaults. -/
def load (path : FilePath) (fs : FileSystem) : Except SettingsError Settings :=
  if fs.contains path then readFile path fs else .ok default

/-- Makes the parents of a path unless they are there. -/
def makeParents (path : FilePath) (fs : FileSystem) : Except FileError Unit × FileSystem :=
  if path.parent = [] ∨ fs.contains path.parent then (.ok (), fs)
  else fs.makeFolders path.parent

/-- Writes settings.  The file system afterwards counts in any case: parents that were
made stay. -/
def save (s : Settings) (path : FilePath) (fs : FileSystem) :
    Except SettingsError Unit × FileSystem :=
  match makeParents path fs with
  | (.error e, prepared) => (.error (ofFileError e), prepared)
  | (.ok (), prepared) =>
    match s.toToml? with
    | none => (.error .serialize, prepared)
    | some text =>
      match prepared.write path (Utf8.encode text) with
      | .error e => (.error (ofFileError e), prepared)
      | .ok written => (.ok (), written)

end Settings

end RemotePad
