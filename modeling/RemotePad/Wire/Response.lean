import RemotePad.Text.Utf8
import RemotePad.Wire.Error
import RemotePad.Wire.Flags
import RemotePad.Wire.Request

/-!
# Gamepad responses

The answer to a request for a pad: code, id, flags, and a name with its length
before it.

* `GamepadResponse.encode` writes a response, cutting the name at the end of the
  datagram; `GamepadResponse.decode` reads id and flags back.
* `GamepadResponse.decodeName` reads the name separately, because it is read from
  the whole receive buffer and only when it is wanted.
-/

namespace RemotePad.Wire

/-- Where the name starts. -/
def nameOffset : Nat := 10

/-- Bytes left for a name. -/
def maxNameLength : Nat := datagramLength - nameOffset

/-- A response: the pad's id, zero for no pad, and its flags. -/
structure GamepadResponse where
  id : UInt32
  flags : LayoutFlags
  deriving Repr, DecidableEq

/-- The bytes of a name that fit into a response. -/
def nameBytes (name : String) : List UInt8 :=
  (Utf8.encode name.toList).take maxNameLength

/-- A length field and the name, or nothing. -/
def nameField : Option String → List UInt8
  | none => []
  | some name => bytesLE 4 (nameBytes name).length ++ nameBytes name

/-- The datagram of a response. -/
def GamepadResponse.encode (r : GamepadResponse) (name : Option String) : Datagram :=
  .ofBytes (codeGetGamepad :: bytesLE 4 r.id.toNat ++ r.flags.bits :: nameField name)

/-- Reads id and flags. -/
def GamepadResponse.decode : List UInt8 → Except DecodeError GamepadResponse
  | [] => .error .truncated
  | code :: rest =>
    if code ≠ codeGetGamepad then .error (.unexpectedCode codeGetGamepad code)
    else match rest with
      | i₀ :: i₁ :: i₂ :: i₃ :: flags :: _ =>
        .ok ⟨UInt32.ofNat (valueLE [i₀, i₁, i₂, i₃]), ⟨flags⟩⟩
      | _ => .error .truncated

/-- A text without the NUL characters at its end. -/
def trimTrailingNul (text : List Char) : List Char :=
  (text.reverse.dropWhile (· = '\x00')).reverse

/-- The announced length of the name, signed. -/
def announcedLength : List UInt8 → Except DecodeError Int32
  | n₀ :: n₁ :: n₂ :: n₃ :: _ => .ok (UInt32.ofNat (valueLE [n₀, n₁, n₂, n₃])).toInt32
  | _ => .error .truncated

/-- Reads the name of a response from bytes of any length, without looking at the
code.  Bytes that are no UTF-8 are replaced, trailing NUL characters dropped. -/
def GamepadResponse.decodeName (bytes : List UInt8) : Except DecodeError String :=
  match announcedLength (bytes.drop 6) with
  | .error e => .error e
  | .ok length =>
    if length.toInt < 0 ∨ (maxNameLength : Int) < length.toInt then
      .error (.nameLength length maxNameLength)
    else
      let name := (bytes.drop nameOffset).take length.toInt.toNat
      if name.length < length.toInt.toNat then .error .truncated
      else .ok (String.ofList (trimTrailingNul (Utf8.decodeLossy name)))

end RemotePad.Wire
