import RemotePad.Layout

/-!
# Walks over an object table

* `ObjectFilter` selects objects by identity or place, `ObjectTypes` by kind.
* `Layout.walk` visits the selected objects in table order until the visitor
  stops it; the visitor carries a state of its own.
* `Layout.find` is the first object that a filter selects.
-/

namespace RemotePad

/-! ## Selection -/

/-- A mask of object kinds.  Bits without a meaning are kept and ignored. -/
structure ObjectTypes where
  bits : UInt8
  deriving Repr, DecidableEq

/-- The mask bit of a kind. -/
def ObjectKind.typeBit : ObjectKind → UInt8
  | .axis => 1
  | .button => 2
  | .hat => 4

/-- All kinds. -/
def ObjectTypes.all : ObjectTypes := ⟨7⟩

/-- Whether the mask holds the bit of a kind. -/
def ObjectTypes.admits (types : ObjectTypes) (kind : ObjectKind) : Bool :=
  types.bits &&& kind.typeBit == kind.typeBit

/-- A choice of objects. -/
inductive ObjectFilter where
  /-- Every object of the device. -/
  | device
  /-- The object at a byte offset of the joystick record. -/
  | offset (value : UInt32)
  /-- The object with an id. -/
  | id (value : ObjectId)
  deriving Repr, DecidableEq

/-- Whether the filter selects an object. -/
def ObjectFilter.matches : ObjectFilter → ObjectDescriptor → Bool
  | .device, _ => true
  | .offset n, o => o.offset == n
  | .id i, o => o.id == i

/-! ## Walking -/

/-- What a visitor asks for after a visit. -/
inductive Flow where
  /-- Visit the next object. -/
  | proceed
  /-- Visit no more. -/
  | stop
  deriving Repr, DecidableEq

/-- The table of a layout with the index of each row. -/
def Layout.rows (l : Layout) : List (ObjectDescriptor × Nat) :=
  l.objects.zipIdx

/-- Whether a walk with this filter and mask visits an object. -/
def selects (filter : ObjectFilter) (types : ObjectTypes) (o : ObjectDescriptor) : Bool :=
  types.admits o.id.kind && filter.matches o

/-- Goes through rows in order, passes over those that are not chosen and visits
the others until the visitor stops. -/
def walkRows {σ : Type} (chosen : ObjectDescriptor → Bool)
    (visit : σ → Nat → ObjectDescriptor → Flow × σ) :
    List (ObjectDescriptor × Nat) → σ → Flow × σ
  | [], s => (.proceed, s)
  | (o, i) :: rest, s =>
    if chosen o then
      match visit s i o with
      | (.proceed, s') => walkRows chosen visit rest s'
      | (.stop, s') => (.stop, s')
    else walkRows chosen visit rest s

/-- Visits the objects of the layout that the filter and the mask select, in
table order, until the visitor stops.  The answer is whether the visitor stopped
the walk, and the visitor's last state. -/
def Layout.walk {σ : Type} (l : Layout) (filter : ObjectFilter) (types : ObjectTypes)
    (visit : σ → Nat → ObjectDescriptor → Flow × σ) (s : σ) : Flow × σ :=
  walkRows (selects filter types) visit l.rows s

/-- The first object that the filter selects, with its index. -/
def Layout.find (l : Layout) (filter : ObjectFilter) : Option (Nat × ObjectDescriptor) :=
  (l.rows.find? fun row => filter.matches row.1).map fun row => (row.2, row.1)

end RemotePad
