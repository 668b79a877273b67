import RemotePad.FilePath

/-!
# File systems

A file system is a file tree with a working folder, from which paths start.

* `FileSystem.locate` follows a path to a place.
* `FileSystem.read` and `FileSystem.write` are for the bytes of one file;
  `FileSystem.write` needs the folder of the file.
* `FileSystem.makeFolders` makes the folders of a path.  Folders that it made before
  it met an obstacle stay.
-/

namespace RemotePad

/-- A file tree and a place in it where paths start. -/
structure FileSystem where
  tree : FileTree
  /-- The working folder. -/
  here : Place := []

namespace FileSystem

/-- A file system with nothing in it but an empty working folder with a name. -/
def empty (name : FileName) : FileSystem where
  tree := .folder [(name, .folder [])]
  here := [name]

/-! ## Following paths -/

/-- Where a path starts: at the root if it begins with a slash, else in the working
folder. -/
def start (fs : FileSystem) (path : FilePath) : Place :=
  if path.head? = some [] then [] else fs.here

/-- Follows one part of a path.  Every part needs a folder to start from; the root is
the folder around itself. -/
def step (tree : FileTree) (place : Place) (part : FileName) : Except FileError Place :=
  match tree.find? place with
  | some (.folder entries) =>
    match FilePath.Step.ofPart part with
    | .stay => .ok place
    | .up => .ok place.dropLast
    | .enter name =>
      if FilePath.nameLimit < (Utf8.encode name).length then .error .tooLong
      else if (FileTree.child? entries name).isSome then .ok (place ++ [name])
      else .error .missing
  | _ => .error .notFolder

/-- Follows a path from a place. -/
def walk (tree : FileTree) (place : Place) (path : FilePath) : Except FileError Place :=
  path.foldlM (step tree) place

/-- The place to which a path leads. -/
def locate (fs : FileSystem) (path : FilePath) : Except FileError Place :=
  match path.fault? with
  | some e => .error e
  | none => walk fs.tree (fs.start path) path

/-- Whether a path leads anywhere. -/
def contains (fs : FileSystem) (path : FilePath) : Bool :=
  (fs.locate path).isOk

/-! ## Files -/

/-- The bytes of the file at a path. -/
def read (fs : FileSystem) (path : FilePath) : Except FileError (List UInt8) := do
  match fs.tree.find? (← fs.locate path) with
  | some (.file bytes) => .ok bytes
  | some (.folder _) => .error .isFolder
  | none => .error .missing

/-- The file system with something put at a place. -/
def put (fs : FileSystem) (place : Place) (t : FileTree) : FileSystem :=
  { fs with tree := fs.tree.put place t }

/-- Writes a file into an existing folder, in place of an earlier file. -/
def write (fs : FileSystem) (path : FilePath) (bytes : List UInt8) :
    Except FileError FileSystem :=
  match path.fault? with
  | some e => .error e
  | none => do
    let folder ← walk fs.tree (fs.start path) path.dropLast
    let last := path.getLastD []
    match step fs.tree folder last with
    | .ok place =>
      match fs.tree.find? place with
      | some (.file _) => .ok (fs.put place (.file bytes))
      | _ => .error .isFolder
    | .error .missing => .ok (fs.put (folder ++ [last]) (.file bytes))
    | .error e => .error e

/-! ## Folders -/

/-- Follows a path from a place and makes every folder that is missing; all of the path
must be folders in the end. -/
def makeWay (tree : FileTree) (place : Place) : FilePath → Except FileError Unit × FileTree
  | [] =>
    match tree.find? place with
    | some (.folder _) => (.ok (), tree)
    | _ => (.error .notFolder, tree)
  | part :: rest =>
    match step tree place part with
    | .ok next => makeWay tree next rest
    | .error .missing =>
      makeWay (tree.put (place ++ [part]) (.folder [])) (place ++ [part]) rest
    | .error e => (.error e, tree)

/-- Makes the folders of a path that are missing. -/
def makeFolders (fs : FileSystem) (path : FilePath) : Except FileError Unit × FileSystem :=
  match path.fault? with
  | some e => (.error e, fs)
  | none =>
    let made := makeWay fs.tree (fs.start path) path
    (made.1, { fs with tree := made.2 })

end FileSystem

end RemotePad
