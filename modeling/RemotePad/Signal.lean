/-!
# Wait handles

A wait handle is a flag that one party raises and others wait for.  Handles are
shared: whoever holds one sees the same flag.  `SignalTable` holds the flags, a
`WaitHandle` names one of them.

* A fresh handle is down and differs from every handle before it.
* A flag stays up until it is lowered.
* Waiting ends only when the flag is up: `SignalTable.wait?` is `none` when the
  wait would not end.
-/

namespace RemotePad

/-- The name of a flag.  Equal names share the flag. -/
structure WaitHandle where
  index : Nat
  deriving Repr, DecidableEq

/-- The flags of all handles made so far. -/
structure SignalTable where
  flags : List Bool := []
  deriving Repr, DecidableEq, Inhabited

namespace SignalTable

/-- Makes a handle whose flag is down. -/
def fresh (t : SignalTable) : WaitHandle × SignalTable :=
  (⟨t.flags.length⟩, ⟨t.flags ++ [false]⟩)

/-- Whether the flag is up. -/
def isSet (t : SignalTable) (h : WaitHandle) : Bool :=
  t.flags[h.index]?.getD false

/-- Raises the flag. -/
def raise (t : SignalTable) (h : WaitHandle) : SignalTable :=
  ⟨t.flags.set h.index true⟩

/-- Lowers the flag. -/
def lower (t : SignalTable) (h : WaitHandle) : SignalTable :=
  ⟨t.flags.set h.index false⟩

/-- Raises the flag of a handle, if there is one. -/
def raise? (t : SignalTable) : Option WaitHandle → SignalTable
  | some h => t.raise h
  | none => t

/-- Waits until the flag is up; `none` when nothing would ever end the wait. -/
def wait? (t : SignalTable) (h : WaitHandle) : Option Unit :=
  if t.isSet h then some () else none

/-- Waits for a limited time and says whether the flag is up at its end. -/
def waitTimeout (t : SignalTable) (h : WaitHandle) : Bool :=
  t.isSet h

/-- A handle in words. -/
def describe (t : SignalTable) (h : WaitHandle) : String :=
  "WaitHandle \x7b signaled: " ++ (if t.isSet h then "true" else "false") ++ " \x7d"

/-! ## What the operations do to the flags -/

theorem isSet_raise (t : SignalTable) (h k : WaitHandle) :
    (t.raise h).isSet k = (t.isSet k || decide (h = k ∧ k.index < t.flags.length)) := by
  rcases h with ⟨i⟩
  rcases k with ⟨j⟩
  by_cases hij : i = j
  · subst hij
    by_cases hlt : i < t.flags.length
    · simp [raise, isSet, hlt]
    · simp [raise, isSet, hlt]
  · simp [raise, isSet, hij, List.getElem?_set_ne hij]

theorem isSet_lower (t : SignalTable) (h k : WaitHandle) :
    (t.lower h).isSet k = (t.isSet k && decide (h ≠ k)) := by
  rcases h with ⟨i⟩
  rcases k with ⟨j⟩
  by_cases hij : i = j
  · subst hij
    by_cases hlt : i < t.flags.length
    · simp [lower, isSet, hlt]
    · simp [lower, isSet, hlt]
  · simp [lower, isSet, hij, List.getElem?_set_ne hij]

end SignalTable

end RemotePad
