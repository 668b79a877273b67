/-!
# Datagrams

Everything that goes over the wire is a datagram of 64 bytes.

* `Datagram.ofBytes` fills bytes up with zeros.
* `Payload` is what was received: up to 64 bytes; `Payload.padded` is the whole
  receive buffer, in which the bytes that were not received are zero.
* `bytesLE` and `valueLE` write and read numbers with the lowest byte first.
-/

namespace RemotePad.Wire

/-! ## Fixed-size datagrams -/

/-- Number of bytes of a datagram. -/
def datagramLength : Nat := 64

/-- A full datagram. -/
structure Datagram where
  bytes : List UInt8
  length_eq : bytes.length = datagramLength
  deriving Repr, DecidableEq

/-- The first 64 of the given bytes, filled up with zeros. -/
def Datagram.ofBytes (bytes : List UInt8) : Datagram where
  bytes := (bytes ++ List.replicate datagramLength 0).take datagramLength
  length_eq := by simp [datagramLength]

/-- Received bytes, at most a datagram. -/
structure Payload where
  bytes : List UInt8
  length_le : bytes.length ≤ datagramLength
  deriving Repr, DecidableEq

/-- The received part of the given bytes. -/
def Payload.ofBytes (bytes : List UInt8) : Payload where
  bytes := bytes.take datagramLength
  length_le := List.length_take_le _ _

/-- The receive buffer: the received bytes, then zeros. -/
def Payload.padded (p : Payload) : Datagram :=
  .ofBytes p.bytes

/-- Bytes that fit are followed by zeros. -/
theorem Datagram.bytes_ofBytes {bytes : List UInt8} (h : bytes.length ≤ datagramLength) :
    (Datagram.ofBytes bytes).bytes =
      bytes ++ List.replicate (datagramLength - bytes.length) 0 := by
  simp [Datagram.ofBytes, List.take_append, List.take_of_length_le h]

/-! ## Numbers with the lowest byte first -/

/-- The lowest `k` bytes of `n`, lowest first. -/
def bytesLE : Nat → Nat → List UInt8
  | 0, _ => []
  | k + 1, n => UInt8.ofNat (n % 256) :: bytesLE k (n / 256)

/-- The number with the given bytes, lowest first. -/
def valueLE : List UInt8 → Nat
  | [] => 0
  | b :: rest => b.toNat + 256 * valueLE rest

@[simp] theorem length_bytesLE (k n : Nat) : (bytesLE k n).length = k := by
  induction k generalizing n with
  | zero => rfl
  | succ k ih => simp [bytesLE, ih]

/-- Reading what was written gives the number back, up to the width. -/
theorem valueLE_bytesLE (k n : Nat) : valueLE (bytesLE k n) = n % Nat.pow 256 k := by
  induction k generalizing n with
  | zero => simp [bytesLE, valueLE, Nat.mod_one]
  | succ k ih =>
    have h : (UInt8.ofNat (n % 256)).toNat = n % 256 := by
      simp
    have hpow : Nat.pow 256 (k + 1) = 256 * Nat.pow 256 k := Nat.pow_succ'
    rw [bytesLE, valueLE, ih, h, hpow, Nat.mod_mul]

/-- Writing what was read gives the bytes back. -/
theorem bytesLE_valueLE (bytes : List UInt8) : bytesLE bytes.length (valueLE bytes) = bytes := by
  induction bytes with
  | nil => rfl
  | cons b rest ih =>
    have hlt := b.toNat_lt
    have hmod : (b.toNat + 256 * valueLE rest) % 256 = b.toNat := by omega
    have hdiv : (b.toNat + 256 * valueLE rest) / 256 = valueLE rest := by omega
    simp [bytesLE, valueLE, hmod, hdiv, ih]

end RemotePad.Wire
