import RemotePad.Object

/-!
# Layouts

A pad reports under one of two layouts.  A layout is an object table together
with the places of the button bits of a sample.

* `Layout.objects` is the table; the index of an object in it (`Layout.indexOf`)
  is how events and calibrations refer to the object.
* `Layout.buttonSlot` says which button a bit of a sample's mask is.  The
  standard layout permutes the bits, the extended layout keeps them.
-/

namespace RemotePad

/-! ## Object tables -/

/-- The two ways in which a pad is presented. -/
inductive Layout where
  /-- Four axes, twelve buttons, one hat. -/
  | standard
  /-- Five axes with both triggers on one of them, ten buttons, one hat. -/
  | extended
  deriving Repr, DecidableEq, Inhabited

/-- The objects of the standard layout. -/
def standardObjects : List ObjectDescriptor :=
  [ .ofAxis 0 .x "X Axis",
    .ofAxis 1 .y "Y Axis",
    .ofAxis 2 .z "Z Axis",
    .ofAxis 3 .rz "Rz Axis",
    .ofButton 0 "Button 0",
    .ofButton 1 "Button 1",
    .ofButton 2 "Button 2",
    .ofButton 3 "Button 3",
    .ofButton 4 "Button 4",
    .ofButton 5 "Button 5",
    .ofButton 6 "Button 6",
    .ofButton 7 "Button 7",
    .ofButton 8 "Button 8",
    .ofButton 9 "Button 9",
    .ofButton 10 "Button 10",
    .ofButton 11 "Button 11",
    .pov ]

/-- The objects of the extended layout. -/
def extendedObjects : List ObjectDescriptor :=
  [ .ofAxis 0 .x "X Axis",
    .ofAxis 1 .y "Y Axis",
    .ofAxis 2 .z "Z Axis",
    .ofAxis 3 .rx "Rx Axis",
    .ofAxis 4 .ry "Ry Axis",
    .ofButton 0 "Button 0",
    .ofButton 1 "Button 1",
    .ofButton 2 "Button 2",
    .ofButton 3 "Button 3",
    .ofButton 4 "Button 4",
    .ofButton 5 "Button 5",
    .ofButton 6 "Button 6",
    .ofButton 7 "Button 7",
    .ofButton 8 "Button 8",
    .ofButton 9 "Button 9",
    .pov ]

/-- The object table of a layout. -/
def Layout.objects : Layout → List ObjectDescriptor
  | .standard => standardObjects
  | .extended => extendedObjects

/-- Place of an object in the table of a layout. -/
def Layout.indexOf (l : Layout) (id : ObjectId) : Option Nat :=
  l.objects.findIdx? fun o => o.id = id

/-- Number of objects of one kind. -/
def Layout.count (l : Layout) (kind : ObjectKind) : Nat :=
  l.objects.countP fun o => o.id.kind = kind

/-! ## Button bits -/

/-- The buttons that the bits of a sample stand for under the standard layout,
from the lowest bit on. -/
def standardButtonSlots : List UInt8 :=
  [1, 2, 0, 3, 4, 5, 8, 9, 10, 11, 6, 7]

/-- Number of button bits under the extended layout. -/
def extendedButtonCount : UInt8 := 10

/-- Number of button bits that a layout looks at. -/
def Layout.buttonCount : Layout → UInt8
  | .standard => UInt8.ofNat standardButtonSlots.length
  | .extended => extendedButtonCount

/-- The button that a bit of a sample stands for. -/
def Layout.buttonSlot : Layout → UInt8 → Option UInt8
  | .standard, bit => standardButtonSlots[bit.toNat]?
  | .extended, bit => if bit < extendedButtonCount then some bit else none

end RemotePad
