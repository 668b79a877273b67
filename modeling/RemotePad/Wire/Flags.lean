import RemotePad.Layout

/-!
# Layout flags

The flags byte of a gamepad response says under which layout the pad reports
and over which transport it is reachable.  Bits without a meaning are kept.
-/

namespace RemotePad.Wire

/-- The flags byte of a gamepad response. -/
structure LayoutFlags where
  bits : UInt8
  deriving Repr, DecidableEq, Inhabited

/-- The pad is mapped to the standard layout. -/
def LayoutFlags.mapperStandard : LayoutFlags := ⟨0x01⟩

/-- The pad is mapped to the extended layout. -/
def LayoutFlags.mapperExtended : LayoutFlags := ⟨0x02⟩

/-- The pad is reachable over the extended transport. -/
def LayoutFlags.transportExtended : LayoutFlags := ⟨0x04⟩

/-- The pad is reachable over the standard transport. -/
def LayoutFlags.transportStandard : LayoutFlags := ⟨0x08⟩

/-- Whether all flags of `other` are set. -/
def LayoutFlags.contains (flags other : LayoutFlags) : Bool :=
  flags.bits &&& other.bits == other.bits

/-- The layout that the flags ask for.  The extended mapper wins over the standard
one, and no mapper at all means the extended layout. -/
def LayoutFlags.layout (flags : LayoutFlags) : Layout :=
  if flags.contains mapperExtended then .extended
  else if flags.contains mapperStandard then .standard
  else .extended

/-- Whether the pad can be reached from here: over the standard transport. -/
def LayoutFlags.isCompatible (flags : LayoutFlags) : Bool :=
  flags.contains transportStandard

end RemotePad.Wire
