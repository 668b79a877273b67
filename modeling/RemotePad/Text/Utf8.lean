/-!
# UTF-8 text, with and without faults

Bytes are read by a machine that holds at most one unfinished character.

* `Utf8.start` and `Utf8.extend` are its two moves: the first byte of a
  character, and a further byte of an unfinished one.  The bounds on the next
  byte rule out overlong forms, surrogates and code points that do not exist.
* `Utf8.decode?` reads well-formed bytes and nothing else.
* `Utf8.decodeLossy` reads any bytes: every longest run of bytes that begins a
  character and cannot be continued becomes one replacement character.
* `Utf8.encode` writes characters.
-/

namespace RemotePad.Utf8

/-! ## The machine -/

/-- An unfinished character. -/
structure Partial where
  /-- The bits read so far, as a number. -/
  value : Nat
  /-- Bytes missing after the next one. -/
  missing : Nat
  /-- Least byte that may come next. -/
  low : UInt8
  /-- Greatest byte that may come next. -/
  high : UInt8
  deriving Repr, DecidableEq

/-- What a byte does to the machine. -/
inductive Verdict where
  /-- The byte ends a character. -/
  | complete (c : Char)
  /-- The character needs more bytes. -/
  | unfinished (p : Partial)
  /-- The byte cannot stand here. -/
  | refused
  deriving Repr, DecidableEq

/-- The first byte of a character. -/
def start (b : UInt8) : Verdict :=
  if b < 0x80 then .complete (Char.ofNat b.toNat)
  else if b < 0xC2 then .refused
  else if b < 0xE0 then .unfinished ⟨b.toNat - 0xC0, 0, 0x80, 0xBF⟩
  else if b < 0xF0 then
    .unfinished ⟨b.toNat - 0xE0, 1,
      if b = 0xE0 then 0xA0 else 0x80,
      if b = 0xED then 0x9F else 0xBF⟩
  else if b < 0xF5 then
    .unfinished ⟨b.toNat - 0xF0, 2,
      if b = 0xF0 then 0x90 else 0x80,
      if b = 0xF4 then 0x8F else 0xBF⟩
  else .refused

/-- A further byte of an unfinished character. -/
def extend (p : Partial) (b : UInt8) : Verdict :=
  if p.low ≤ b ∧ b ≤ p.high then
    let value := 64 * p.value + (b.toNat - 0x80)
    match p.missing with
    | 0 => .complete (Char.ofNat value)
    | m + 1 => .unfinished ⟨value, m, 0x80, 0xBF⟩
  else .refused

/-! ## Reading -/

/-- The character that stands for bytes without meaning. -/
def replacement : Char := '\uFFFD'

/-- Reads bytes from between characters (`none`) or inside one.  A refused byte
ends the unfinished character with a replacement and is looked at once more as a
first byte. -/
def decodeLossyFrom : Option Partial → List UInt8 → List Char
  | none, [] => []
  | some _, [] => [replacement]
  | none, b :: rest =>
    match start b with
    | .complete c => c :: decodeLossyFrom none rest
    | .unfinished p => decodeLossyFrom (some p) rest
    | .refused => replacement :: decodeLossyFrom none rest
  | some p, b :: rest =>
    match extend p b with
    | .complete c => c :: decodeLossyFrom none rest
    | .unfinished q => decodeLossyFrom (some q) rest
    | .refused =>
      replacement ::
        match start b with
        | .complete c => c :: decodeLossyFrom none rest
        | .unfinished q => decodeLossyFrom (some q) rest
        | .refused => replacement :: decodeLossyFrom none rest

/-- Reads any bytes as text. -/
def decodeLossy (bytes : List UInt8) : List Char :=
  decodeLossyFrom none bytes

/-- Reads bytes from between characters or inside one and gives up at the first
refused byte, or where the bytes end inside a character. -/
def decodeFrom? : Option Partial → List UInt8 → Option (List Char)
  | none, [] => some []
  | some _, [] => none
  | none, b :: rest =>
    match start b with
    | .complete c => (decodeFrom? none rest).map (c :: ·)
    | .unfinished p => decodeFrom? (some p) rest
    | .refused => none
  | some p, b :: rest =>
    match extend p b with
    | .complete c => (decodeFrom? none rest).map (c :: ·)
    | .unfinished q => decodeFrom? (some q) rest
    | .refused => none

/-- Reads well-formed bytes as text. -/
def decode? (bytes : List UInt8) : Option (List Char) :=
  decodeFrom? none bytes

/-! ## Writing -/

/-- The bytes of a text. -/
def encode (text : List Char) : List UInt8 :=
  text.flatMap String.utf8EncodeChar

@[simp] theorem encode_nil : encode [] = [] := rfl

@[simp] theorem encode_cons (c : Char) (text : List Char) :
    encode (c :: text) = String.utf8EncodeChar c ++ encode text := rfl

end RemotePad.Utf8
