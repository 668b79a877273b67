import RemotePad.Wire.Datagram

/-!
# Numbers in datagrams

What is written with a fixed number of bytes is read back, and what is read is written back
byte for byte.

* `valueLE_lt`: so many bytes hold a number below so many powers of 256.
* `ofNat_valueLE_bytesLE32`, `bytesLE_ofNat_valueLE32` and their 16-bit forms: words of the
  width of the bytes lose nothing either way.
* `Datagram.take_bytes_ofBytes`: the beginning of a datagram that reaches past what was
  written is what was written, and zeros.
-/

namespace RemotePad.Wire

/-! ## Bytes and words -/

theorem valueLE_lt (bytes : List UInt8) : valueLE bytes < Nat.pow 256 bytes.length := by
  induction bytes with
  | nil => exact Nat.one_pos
  | cons b rest ih =>
    have hb := b.toNat_lt
    have hpow : Nat.pow 256 (b :: rest).length = 256 * Nat.pow 256 rest.length := Nat.pow_succ'
    rw [valueLE, hpow]
    omega

/-- A word is read back. -/
theorem ofNat_valueLE_bytesLE32 (v : UInt32) :
    UInt32.ofNat (valueLE (bytesLE 4 v.toNat)) = v := by
  have hv : v.toNat % Nat.pow 256 4 = v.toNat := Nat.mod_eq_of_lt v.toNat_lt
  rw [valueLE_bytesLE, hv, UInt32.ofNat_toNat]

theorem ofNat_valueLE_bytesLE16 (v : UInt16) :
    UInt16.ofNat (valueLE (bytesLE 2 v.toNat)) = v := by
  have hv : v.toNat % Nat.pow 256 2 = v.toNat := Nat.mod_eq_of_lt v.toNat_lt
  rw [valueLE_bytesLE, hv, UInt16.ofNat_toNat]

/-- Four bytes are written back. -/
theorem bytesLE_ofNat_valueLE32 {bytes : List UInt8} (four : bytes.length = 4) :
    bytesLE 4 (UInt32.ofNat (valueLE bytes)).toNat = bytes := by
  have hlt : valueLE bytes < UInt32.size := by
    have h := valueLE_lt bytes
    rwa [four] at h
  rw [UInt32.toNat_ofNat_of_lt' hlt, ← four]
  exact bytesLE_valueLE bytes

theorem bytesLE_ofNat_valueLE16 {bytes : List UInt8} (two : bytes.length = 2) :
    bytesLE 2 (UInt16.ofNat (valueLE bytes)).toNat = bytes := by
  have hlt : valueLE bytes < UInt16.size := by
    have h := valueLE_lt bytes
    rwa [two] at h
  rw [UInt16.toNat_ofNat_of_lt' hlt, ← two]
  exact bytesLE_valueLE bytes

/-! ## Beginnings of a datagram -/

/-- A beginning that reaches past the bytes written holds all of them, then zeros. -/
theorem Datagram.take_bytes_ofBytes {bytes : List UInt8} {k : Nat} (fits : bytes.length ≤ k)
    (short : k ≤ datagramLength) :
    (Datagram.ofBytes bytes).bytes.take k = bytes ++ List.replicate (k - bytes.length) 0 := by
  have hmin : min (k - bytes.length) (datagramLength - bytes.length) = k - bytes.length := by
    omega
  rw [bytes_ofBytes (Nat.le_trans fits short), List.take_append, List.take_of_length_le fits,
    List.take_replicate, hmin]

end RemotePad.Wire
