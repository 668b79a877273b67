import RemotePad.Text.Numeral

/-!
# Faults of received datagrams

`DecodeError` lists what can be wrong with a datagram, `DecodeError.message` says
it in words.
-/

namespace RemotePad.Wire

/-- What is wrong with a datagram. -/
inductive DecodeError where
  /-- The first byte asks for another kind of datagram. -/
  | unexpectedCode (expected found : UInt8)
  /-- A state report of an unknown kind. -/
  | unexpectedSubtype (found : UInt8)
  /-- The announced length of a name is negative or more than fits. -/
  | nameLength (length : Int32) (max : Nat)
  /-- The datagram ends too early. -/
  | truncated
  deriving Repr, DecidableEq

/-- The fault in words. -/
def DecodeError.message : DecodeError → String
  | .unexpectedCode expected found =>
    "unexpected response code " ++ String.ofList (decimal found.toNat) ++
      " (wanted " ++ String.ofList (decimal expected.toNat) ++ ")"
  | .unexpectedSubtype found =>
    "unexpected state report sub-type " ++ String.ofList (decimal found.toNat)
  | .nameLength length max =>
    "name length " ++ String.ofList (signedDecimal length.toInt) ++
      " does not fit in a " ++ String.ofList (decimal max) ++ "-byte payload"
  | .truncated => "datagram truncated"

end RemotePad.Wire
