/-!
# File trees

A file tree is a file or a folder of named trees.  A place is the list of names on
the way from the root.

* `FileTree.find?` is what stands at a place.
* `FileTree.put` puts something there.
-/

namespace RemotePad

/-! ## Trees and places -/

/-- The name of a file or folder. -/
abbrev FileName := List Char

/-- The names on the way from the root. -/
abbrev Place := List FileName

/-- A file, or a folder with everything in it. -/
inductive FileTree where
  | file (bytes : List UInt8)
  | folder (entries : List (FileName × FileTree))

instance : Inhabited FileTree := ⟨.folder []⟩

namespace FileTree

/-! ## Entries of a folder -/

/-- The tree with a name. -/
def child? (entries : List (FileName × FileTree)) (name : FileName) : Option FileTree :=
  match entries with
  | [] => none
  | e :: rest => if e.1 = name then some e.2 else child? rest name

/-- Replaces the tree with a name, or adds it at the end. -/
def putChild (entries : List (FileName × FileTree)) (name : FileName) (t : FileTree) :
    List (FileName × FileTree) :=
  match entries with
  | [] => [(name, t)]
  | e :: rest => if e.1 = name then (name, t) :: rest else e :: putChild rest name t

theorem child?_putChild (entries : List (FileName × FileTree)) (name other : FileName)
    (t : FileTree) :
    child? (putChild entries name t) other =
      if name = other then some t else child? entries other := by
  induction entries with
  | nil => simp [putChild, child?]
  | cons e rest ih =>
    by_cases he : e.1 = name
    · by_cases ho : name = other <;> simp [putChild, child?, he, ho]
    · by_cases ho : name = other
      · subst ho
        simp [putChild, child?, he, ih]
      · simp [putChild, child?, he, ih, ho]

/-! ## Looking -/

/-- What stands at a place. -/
def find? : Place → FileTree → Option FileTree
  | [], t => some t
  | _ :: _, .file _ => none
  | name :: place, .folder entries => (child? entries name).bind (find? place)

/-- What stands below a place is found from there. -/
theorem find?_append (place below : Place) (tree : FileTree) :
    tree.find? (place ++ below) = (tree.find? place).bind (find? below) := by
  induction place generalizing tree with
  | nil => rfl
  | cons name place ih =>
    cases tree with
    | file bytes => rfl
    | folder entries =>
      cases h : child? entries name with
      | none => simp [find?, h]
      | some t => simp [find?, h, ih]

/-! ## Changing -/

/-- Puts a tree at a place and makes the folders on the way that are missing.  Where a
file stands in the way nothing changes. -/
def put : FileTree → Place → FileTree → FileTree
  | _, [], t => t
  | .file bytes, _ :: _, _ => .file bytes
  | .folder entries, name :: place, t =>
    .folder (putChild entries name (put ((child? entries name).getD (.folder [])) place t))

end FileTree

end RemotePad
