import RemotePad.FileTree
import RemotePad.Text.Joined
import RemotePad.Text.Utf8

/-!
# File paths

A path is a text with slashes.  Its parts are taken one after the other: a name leads
into a folder, two points lead out of it, and an empty part or a single point only
asks that there is a folder.

* `FilePath.ofText` and `FilePath.chars` go from the text to the parts and back.
* `FilePath.parent` is the path without its last step.
* `FilePath.fault?` finds what is wrong with a path wherever it leads.
-/

namespace RemotePad

/-! ## Paths -/

/-- The parts of a path, between its slashes. -/
abbrev FilePath := List FileName

namespace FilePath

/-- The path that a text names. -/
def ofText (text : String) : FilePath :=
  splitOn '/' text.toList

/-- The text of a path. -/
def chars (path : FilePath) : List Char :=
  joinWith '/' path

/-! ## Steps -/

/-- What a part of a path asks for. -/
inductive Step where
  /-- Stay in this folder. -/
  | stay
  /-- Go to the folder around this one. -/
  | up
  /-- Go to something in this folder. -/
  | enter (name : FileName)
  deriving Repr, DecidableEq

/-- The step that a part stands for. -/
def Step.ofPart : FileName → Step
  | [] => .stay
  | ['.'] => .stay
  | ['.', '.'] => .up
  | name => .enter name

/-- Any part that is neither empty nor points alone is a name. -/
theorem Step.ofPart_eq_enter {name : FileName} (empty : name ≠ []) (one : name ≠ ['.'])
    (two : name ≠ ['.', '.']) : Step.ofPart name = .enter name := by
  unfold Step.ofPart
  split <;> simp_all

/-! ## Parents -/

/-- The path without the parts at its end that go nowhere. -/
def trim : FilePath → FilePath
  | [] => []
  | part :: rest =>
    match trim rest with
    | [] => if Step.ofPart part = .stay then [] else [part]
    | trimmed => part :: trimmed

/-- The path without its last step; a single step has the empty path as its parent. -/
def parent (path : FilePath) : FilePath :=
  trim (trim path).dropLast

/-! ## Limits -/

/-- The most bytes that a name may have. -/
def nameLimit : Nat := 255

/-- The most bytes that the text of a path may have. -/
def textLimit : Nat := 4095

end FilePath

/-- Why something cannot be done with a path. -/
inductive FileError where
  /-- There is nothing at the path. -/
  | missing
  /-- A folder stands where a file is needed. -/
  | isFolder
  /-- A file stands where a folder is needed. -/
  | notFolder
  /-- A name or the whole path has too many bytes. -/
  | tooLong
  /-- The path has a null character, which would end it. -/
  | hasNull
  /-- The bytes of the file are no text. -/
  | notText
  deriving Repr, DecidableEq

/-- The error in words. -/
def FileError.message : FileError → String
  | .missing => "no such file or directory"
  | .isFolder => "is a directory"
  | .notFolder => "not a directory"
  | .tooLong => "file name too long"
  | .hasNull => "null character in a path"
  | .notText => "not valid UTF-8"

/-- What is wrong with a path by itself: an empty one leads nowhere, and a null
character or too long a text is refused. -/
def FilePath.fault? (path : FilePath) : Option FileError :=
  if path.chars = [] then some .missing
  else if '\x00' ∈ path.chars then some .hasNull
  else if FilePath.textLimit < (Utf8.encode path.chars).length then some .tooLong
  else none

end RemotePad
