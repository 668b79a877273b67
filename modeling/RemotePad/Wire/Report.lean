import RemotePad.Sample
import RemotePad.Wire.Error
import RemotePad.Wire.Request

/-!
# State reports

A state report carries a sample of the pad with a given id in the first nineteen
bytes of a datagram; what comes after them has no meaning.

* `StateReport.fields` are the nineteen bytes, `StateReport.encode` fills them up.
* `StateReport.decode` reads them back and says what is wrong with other bytes.
-/

namespace RemotePad.Wire

/-- The only kind of state report. -/
def stateSubtype : UInt8 := 1

/-- A sample of the pad with an id. -/
structure StateReport where
  id : UInt32 := 0
  sample : Sample := {}
  deriving Repr, DecidableEq, Inhabited

/-- The two bytes of a stick position. -/
def stickBytes (v : Int16) : List UInt8 :=
  bytesLE 2 v.toUInt16.toNat

/-- The stick position in two bytes. -/
def stickValue (b₀ b₁ : UInt8) : Int16 :=
  (UInt16.ofNat (valueLE [b₀, b₁])).toInt16

/-- The bytes of a report. -/
def StateReport.fields (r : StateReport) : List UInt8 :=
  [codeState, stateSubtype] ++ bytesLE 4 r.id.toNat ++ bytesLE 2 r.sample.buttons.toNat ++
    [r.sample.hat.toUInt8] ++ stickBytes r.sample.lx ++ stickBytes r.sample.ly ++
    stickBytes r.sample.rx ++ stickBytes r.sample.ry ++ [r.sample.lz, r.sample.rz]

/-- The datagram of a report. -/
def StateReport.encode (r : StateReport) : Datagram :=
  .ofBytes r.fields

/-- Reads what follows code and kind. -/
def StateReport.decodeBody : List UInt8 → Except DecodeError StateReport
  | i₀ :: i₁ :: i₂ :: i₃ :: m₀ :: m₁ :: hat :: a₀ :: a₁ :: b₀ :: b₁ :: c₀ :: c₁ :: d₀ :: d₁ ::
      lz :: rz :: _ =>
    .ok
      { id := UInt32.ofNat (valueLE [i₀, i₁, i₂, i₃])
        sample :=
          { buttons := UInt16.ofNat (valueLE [m₀, m₁])
            hat := hat.toInt8
            lx := stickValue a₀ a₁
            ly := stickValue b₀ b₁
            rx := stickValue c₀ c₁
            ry := stickValue d₀ d₁
            lz := lz
            rz := rz } }
  | _ => .error .truncated

/-- Reads a report.  The code is looked at before the kind, and the kind before the
length of the rest. -/
def StateReport.decode : List UInt8 → Except DecodeError StateReport
  | [] => .error .truncated
  | code :: rest =>
    if code ≠ codeState then .error (.unexpectedCode codeState code)
    else match rest with
      | [] => .error .truncated
      | subtype :: body =>
        if subtype ≠ stateSubtype then .error (.unexpectedSubtype subtype)
        else StateReport.decodeBody body

end RemotePad.Wire
