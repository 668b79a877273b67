import RemotePad.Object

/-!
# Input events

A `Change` says that an object now has a value; an `InputEvent` is a change with
a number.

* `buttonPressed`, `buttonReleased` and `hatCentered` are the values that are not
  positions on a scale.
* `numbered` gives each change the next number of a source of numbers, in order.
-/

namespace RemotePad

/-! ## Values -/

/-- Value of a pressed button. -/
def buttonPressed : Int32 := 0x80

/-- Value of a released button. -/
def buttonReleased : Int32 := 0

/-- Value of a hat without a direction. -/
def hatCentered : Int32 := -1

/-! ## Changes and events -/

/-- An object has a new value. -/
structure Change where
  object : ObjectId
  /-- Place of the object in the table of the layout in force. -/
  index : Nat
  value : Int32
  deriving Repr, DecidableEq

/-- A numbered change. -/
structure InputEvent extends Change where
  /-- Number of the event in its session. -/
  sequence : UInt64
  deriving Repr, DecidableEq

/-- Numbers changes in order; each takes one number from the source. -/
def numbered {σ : Type} (next : σ → UInt64 × σ) : List Change → σ → List InputEvent × σ
  | [], s => ([], s)
  | c :: rest, s =>
    let drawn := next s
    let tail := numbered next rest drawn.2
    ({ c with sequence := drawn.1 } :: tail.1, tail.2)

/-- Numbering neither drops nor alters a change. -/
theorem map_toChange_numbered {σ : Type} (next : σ → UInt64 × σ) (changes : List Change) (s : σ) :
    (numbered next changes s).1.map InputEvent.toChange = changes := by
  induction changes generalizing s with
  | nil => rfl
  | cons c rest ih => simp [numbered, ih]

theorem length_numbered {σ : Type} (next : σ → UInt64 × σ) (changes : List Change) (s : σ) :
    (numbered next changes s).1.length = changes.length := by
  rw [← List.length_map InputEvent.toChange, map_toChange_numbered]

end RemotePad
