/-!
# TOML values and tables

A table is a list of entries in the order of their first mention.  Where a table
comes from decides what may be added to it later, so it is kept as a `TableKind`:

* a table with a header of its own may not get another header, and dotted keys do
  not reach into it;
* a table implied by a longer header may get its own header later;
* a table made by a dotted key grows by dotted keys only;
* an inline table is closed.

`insert`, `openTable` and `openElement` are the three ways a document grows.  They
answer `none` when the document may not say that.
-/

namespace RemotePad.Toml

/-! ## Values -/

/-- A key, as the text it stands for. -/
abbrev Key := List Char

/-- How a table came about. -/
inductive TableKind where
  | header
  | implied
  | dotted
  | inline
  deriving Repr, DecidableEq

/-- A value of a document.  Floats and dates keep their written form. -/
inductive Value where
  | string (text : List Char)
  | integer (value : Int)
  | float (text : List Char)
  | boolean (value : Bool)
  | datetime (text : List Char)
  | array (items : List Value)
  | table (kind : TableKind) (entries : List (Key × Value))
  /-- An array of tables made by headers; it has at least one element. -/
  | tables (elements : List (List (Key × Value)))

/-- The entries of a table. -/
abbrev Entries := List (Key × Value)

/-- The value of a key. -/
def Entries.get? (entries : Entries) (k : Key) : Option Value :=
  (entries.find? fun e => e.1 = k).map Prod.snd

/-- Replaces the value of a key, or adds the key at the end. -/
def Entries.put (entries : Entries) (k : Key) (v : Value) : Entries :=
  if entries.any fun e => e.1 = k then
    entries.map fun e => if e.1 = k then (k, v) else e
  else entries ++ [(k, v)]

/-- The elements with the last one replaced. -/
def replaceLast (elements : List Entries) (last : Entries) : List Entries :=
  elements.dropLast ++ [last]

/-! ## Growth -/

/-- Adds a value under a dotted key.  The key must be new, and the table that holds
it must be the one at hand or one made by dotted keys; on the way to it tables
implied by headers and arrays of tables may be passed. -/
def insert : List Key → Value → Entries → Option Entries
  | [], _, _ => none
  | [k], v, entries =>
    if (Entries.get? entries k).isSome then none else some (Entries.put entries k v)
  | k :: k' :: ks, v, entries =>
    match Entries.get? entries k with
    | none =>
      (insert (k' :: ks) v []).map fun sub => Entries.put entries k (.table .dotted sub)
    | some (.table .dotted sub) =>
      (insert (k' :: ks) v sub).map fun sub => Entries.put entries k (.table .dotted sub)
    | some (.table .implied sub) =>
      if ks.isEmpty then none
      else (insert (k' :: ks) v sub).map fun sub => Entries.put entries k (.table .implied sub)
    | some (.tables elements) =>
      if ks.isEmpty then none
      else (elements.getLast?.bind (insert (k' :: ks) v)).map fun last =>
        Entries.put entries k (.tables (replaceLast elements last))
    | some _ => none

/-- Changes the table at a path that a header names; of an array of tables the last
element counts. -/
def modifyAt : List Key → (Entries → Option Entries) → Entries → Option Entries
  | [], f, entries => f entries
  | k :: ks, f, entries =>
    match Entries.get? entries k with
    | some (.table kind sub) =>
      (modifyAt ks f sub).map fun sub => Entries.put entries k (.table kind sub)
    | some (.tables elements) =>
      (elements.getLast?.bind (modifyAt ks f)).map fun last =>
        Entries.put entries k (.tables (replaceLast elements last))
    | _ => none

/-- Goes to the table that holds the last key of a header, making implied tables on
the way, and lets `f` work there on that key. -/
def descend (f : Key → Entries → Option Entries) : List Key → Entries → Option Entries
  | [], _ => none
  | [k], entries => f k entries
  | k :: k' :: ks, entries =>
    match Entries.get? entries k with
    | none =>
      (descend f (k' :: ks) []).map fun sub => Entries.put entries k (.table .implied sub)
    | some (.table .inline _) => none
    | some (.table kind sub) =>
      (descend f (k' :: ks) sub).map fun sub => Entries.put entries k (.table kind sub)
    | some (.tables elements) =>
      (elements.getLast?.bind (descend f (k' :: ks))).map fun last =>
        Entries.put entries k (.tables (replaceLast elements last))
    | some _ => none

/-- Opens the table that a header names.  A table that was only implied so far keeps
what it holds. -/
def openTable : List Key → Entries → Option Entries :=
  descend fun k entries =>
    match Entries.get? entries k with
    | none => some (Entries.put entries k (.table .header []))
    | some (.table .implied sub) => some (Entries.put entries k (.table .header sub))
    | some _ => none

/-- Adds an element to the array of tables that a header names. -/
def openElement : List Key → Entries → Option Entries :=
  descend fun k entries =>
    match Entries.get? entries k with
    | none => some (Entries.put entries k (.tables [[]]))
    | some (.tables elements) => some (Entries.put entries k (.tables (elements ++ [[]])))
    | some _ => none

end RemotePad.Toml
