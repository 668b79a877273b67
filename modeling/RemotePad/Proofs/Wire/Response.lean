import Mathlib.Data.List.DropRight
import RemotePad.Proofs.Text.Utf8
import RemotePad.Proofs.Wire.Numbers
import RemotePad.Wire.Response

/-!
# Gamepad responses on the wire

A response carries id and flags at fixed places, and a name whose length stands before it.
Names are cut at the end of the datagram, where a character may be cut in two, and lose the
NUL characters at their end.

* `Trimmed`: a text without the NUL characters at its end; `trimmed_trimTrailingNul` says
  that this is what `trimTrailingNul` makes.  No name that is read ends in one
  (`getLast?_of_decodeName`).
* `bytes_encode` is the datagram of a response, `decode_encode` reads id and flags back, and
  `decodeName_encode` says which bytes the name is read from.
* `response_transport`: what arrives of id, flags and name.
-/

namespace RemotePad.Wire

/-! ## Trimming -/

/-- `t` is the text without the NUL characters at its end. -/
structure Trimmed (text t : List Char) : Prop where
  rest : ∃ k, text = t ++ List.replicate k '\x00'
  clean : t.getLast? ≠ some '\x00'

theorem trimmed_trimTrailingNul (text : List Char) : Trimmed text (trimTrailingNul text) := by
  have htrim : trimTrailingNul text = text.rdropWhile (· = '\x00') := rfl
  rw [htrim]
  constructor
  · have hnul : ∀ c ∈ text.rtakeWhile (· = '\x00'), c = '\x00' :=
      fun c hc => of_decide_eq_true (List.mem_rtakeWhile_imp (p := (· = '\x00')) hc)
    refine ⟨(text.rtakeWhile (· = '\x00')).length, ?_⟩
    rw [← List.eq_replicate_of_mem hnul, List.rdropWhile_append_rtakeWhile]
  · intro hlast
    have hne : text.rdropWhile (· = '\x00') ≠ [] := by
      intro hnil
      rw [hnil] at hlast
      cases hlast
    rw [List.getLast?_eq_some_getLast hne] at hlast
    exact List.rdropWhile_last_not _ text hne (decide_eq_true (Option.some.inj hlast))

/-- A name that was read does not end in NUL. -/
theorem getLast?_of_decodeName {bytes : List UInt8} {name : String}
    (h : GamepadResponse.decodeName bytes = .ok name) :
    name.toList.getLast? ≠ some '\x00' := by
  unfold GamepadResponse.decodeName at h
  split at h
  · cases h
  · split at h
    · cases h
    · dsimp only at h
      split at h
      · cases h
      · obtain rfl := Except.ok.inj h
        rw [String.toList_ofList]
        exact (trimmed_trimTrailingNul _).clean

/-! ## The datagram -/

theorem length_nameBytes_le (name : String) : (nameBytes name).length ≤ 54 :=
  List.length_take_le 54 _

theorem length_nameField_le (name : Option String) : (nameField name).length ≤ 58 := by
  cases name with
  | none => exact Nat.zero_le 58
  | some s =>
    have hname := length_nameBytes_le s
    rw [nameField, List.length_append, length_bytesLE]
    omega

/-- Code, id and flags take six bytes; the field of the name and zeros take the others. -/
theorem bytes_encode (r : GamepadResponse) (name : Option String) :
    (r.encode name).bytes =
      codeGetGamepad :: bytesLE 4 r.id.toNat ++ r.flags.bits ::
        (nameField name ++ List.replicate (58 - (nameField name).length) 0) := by
  have hfield := length_nameField_le name
  have hlength : (codeGetGamepad :: bytesLE 4 r.id.toNat ++ r.flags.bits :: nameField name).length =
      6 + (nameField name).length := by
    simp
    omega
  rw [GamepadResponse.encode, Datagram.bytes_ofBytes (by rw [hlength, datagramLength]; omega),
    hlength, datagramLength]
  have hzeros : 64 - (6 + (nameField name).length) = 58 - (nameField name).length := by omega
  rw [hzeros]
  simp

/-- Id and flags are read back. -/
theorem decode_encode (r : GamepadResponse) (name : Option String) :
    GamepadResponse.decode (r.encode name).bytes = .ok r := by
  have hread : GamepadResponse.decode (codeGetGamepad :: bytesLE 4 r.id.toNat ++ r.flags.bits ::
      (nameField name ++ List.replicate (58 - (nameField name).length) 0)) =
        .ok ⟨UInt32.ofNat (valueLE (bytesLE 4 r.id.toNat)), r.flags⟩ := rfl
  rw [bytes_encode, hread, ofNat_valueLE_bytesLE32]

/-- A length that fits is read back. -/
theorem announcedLength_bytesLE {n : Nat} (small : n ≤ 54) (rest : List UInt8) :
    ∃ length, announcedLength (bytesLE 4 n ++ rest) = .ok length ∧ length.toInt = n := by
  have hread : announcedLength (bytesLE 4 n ++ rest) =
      .ok (UInt32.ofNat (valueLE (bytesLE 4 n))).toInt32 := rfl
  have hn : n % Nat.pow 256 4 = n := Nat.mod_eq_of_lt (Nat.lt_of_le_of_lt small (by decide))
  refine ⟨_, hread, ?_⟩
  rw [valueLE_bytesLE, hn, UInt32.toInt32_ofNat', Int32.toInt_ofNat_of_lt (by omega)]

/-- A name is read from the bytes that were written of it. -/
theorem decodeName_encode (r : GamepadResponse) (s : String) :
    GamepadResponse.decodeName (r.encode (some s)).bytes =
      .ok (String.ofList (trimTrailingNul (Utf8.decodeLossy (nameBytes s)))) := by
  have hname := length_nameBytes_le s
  obtain ⟨zeros, hzeros⟩ : ∃ zeros, (r.encode (some s)).bytes =
      codeGetGamepad :: bytesLE 4 r.id.toNat ++ r.flags.bits ::
        (bytesLE 4 (nameBytes s).length ++ (nameBytes s ++ zeros)) :=
    ⟨_, by rw [bytes_encode, nameField, List.append_assoc]⟩
  have hfield : (r.encode (some s)).bytes.drop 6 =
      bytesLE 4 (nameBytes s).length ++ (nameBytes s ++ zeros) := by
    rw [hzeros]
    rfl
  have hbytes : (r.encode (some s)).bytes.drop nameOffset = nameBytes s ++ zeros := by
    rw [hzeros]
    rfl
  obtain ⟨length, hannounced, hlength⟩ := announcedLength_bytesLE hname (nameBytes s ++ zeros)
  have hfits : ¬ (length.toInt < 0 ∨ (maxNameLength : Int) < length.toInt) := by
    rw [hlength, maxNameLength, nameOffset, datagramLength]
    omega
  have htake : (nameBytes s ++ zeros).take length.toInt.toNat = nameBytes s := by
    rw [hlength, Int.toNat_natCast, List.take_left']
    rfl
  have hwhole : ¬ (nameBytes s).length < length.toInt.toNat := by
    rw [hlength, Int.toNat_natCast]
    exact Nat.lt_irrefl _
  simp only [GamepadResponse.decodeName, hfield, hannounced, if_neg hfits, hbytes, htake,
    if_neg hwhole]

/-- Without a name, an empty one is read. -/
theorem decodeName_encode_none (r : GamepadResponse) :
    GamepadResponse.decodeName (r.encode none).bytes = .ok "" := by
  rw [bytes_encode]
  rfl

/-! ## Names that arrive -/

theorem length_encode_toList (s : String) : (Utf8.encode s.toList).length = s.utf8ByteSize := by
  rw [← String.size_toByteArray, ← s.ofList_toList, String.toByteArray_ofList, String.toList_ofList,
    List.utf8Encode, List.size_toByteArray]
  rfl

/-- A response as it arrives.  Id and flags are those that were sent, whatever the name.  Of
a name of up to 54 bytes all characters arrive; of a longer one the longest beginning in
whole characters that fits, with a replacement behind it if bytes of the next character
fill the rest; both without the NUL characters at their end.  Without a name, an empty one
arrives. -/
theorem response_transport (r : GamepadResponse) :
    (∀ name, GamepadResponse.decode (r.encode name).bytes = .ok r) ∧
    GamepadResponse.decodeName (r.encode none).bytes = .ok "" ∧
    (∀ s : String, s.utf8ByteSize ≤ 54 →
      ∃ name, GamepadResponse.decodeName (r.encode (some s)).bytes = .ok name ∧
        Trimmed s.toList name.toList) ∧
    ∀ s : String, 54 < s.utf8ByteSize →
      ∃ begun name, Utf8.LongestFit 54 s.toList begun ∧
        GamepadResponse.decodeName (r.encode (some s)).bytes = .ok name ∧
        Trimmed (begun ++ if (Utf8.encode begun).length < 54 then ['\uFFFD'] else [])
          name.toList := by
  refine ⟨decode_encode r, decodeName_encode_none r, fun s short => ?_, fun s long => ?_⟩
  · have hbytes : nameBytes s = Utf8.encode s.toList :=
      List.take_of_length_le (by rw [length_encode_toList]; exact short)
    refine ⟨_, decodeName_encode r s, ?_⟩
    rw [String.toList_ofList, hbytes, Utf8.decodeLossy_encode]
    exact trimmed_trimTrailingNul _
  · have hread : Utf8.decodeLossy (nameBytes s) = _ :=
      Utf8.decodeLossy_take_encode (n := 54) (by rw [length_encode_toList]; exact long)
    refine ⟨_, _, Utf8.longestFit_fitting 54 s.toList, decodeName_encode r s, ?_⟩
    rw [String.toList_ofList, hread]
    exact trimmed_trimTrailingNul _

/-- A name of 54 bytes that ends in NUL, and one of 55 bytes whose last character is cut. -/
theorem response_transport_at_limit :
    let r : GamepadResponse := ⟨7, ⟨0xfa⟩⟩
    let full := String.ofList (List.replicate 53 'n' ++ ['\x00'])
    let long := String.ofList ('\x00' :: List.replicate 52 'n' ++ ['é'])
    (full.utf8ByteSize ≤ 54 ∧
      ∃ name, GamepadResponse.decodeName (r.encode (some full)).bytes = .ok name ∧
        Trimmed full.toList name.toList) ∧
    54 < long.utf8ByteSize ∧
      ∃ begun name, Utf8.LongestFit 54 long.toList begun ∧
        GamepadResponse.decodeName (r.encode (some long)).bytes = .ok name ∧
        Trimmed (begun ++ if (Utf8.encode begun).length < 54 then ['\uFFFD'] else [])
          name.toList := by
  intro r full long
  have hfull : full.utf8ByteSize ≤ 54 := by decide +kernel
  have hlong : 54 < long.utf8ByteSize := by decide +kernel
  obtain ⟨_, _, hshort, hcut⟩ := response_transport r
  exact ⟨⟨hfull, hshort full hfull⟩, hlong, hcut long hlong⟩

example :
    GamepadResponse.decodeName
      (GamepadResponse.encode ⟨7, ⟨0xfa⟩⟩
        (some (String.ofList ('\x00' :: List.replicate 52 'n' ++ ['é'])))).bytes =
      .ok (String.ofList ('\x00' :: List.replicate 52 'n' ++ ['\uFFFD'])) := by rfl

end RemotePad.Wire
