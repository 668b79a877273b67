import RemotePad.Json.Value
import RemotePad.Text.Joined

/-!
# JSON records

A record is an object with known fields.

* Reading: other fields have no meaning, a field given twice is refused, and what a
  missing field means is up to the record (`required`, `optional`).
* Writing: fields in order without blanks.  In strings only what must be escaped is
  escaped: quotes, backslashes and control characters.
-/

namespace RemotePad

namespace Json

/-! ## Fields -/

/-- The members of an object whose names are all texts. -/
abbrev Members := List (List Char × Json)

/-- The members, if every name is a text. -/
def namedMembers? : List (Option (List Char) × Json) → Option Members
  | [] => some []
  | (some name, v) :: rest => (namedMembers? rest).map ((name, v) :: ·)
  | (none, _) :: _ => none

/-- A value as a record. -/
def record? : Json → Option Members
  | .object members => namedMembers? members
  | _ => none

/-- The value of a field, if there is one; `none` for a field given twice. -/
def Members.field? (members : Members) (name : String) : Option (Option Json) :=
  match members.filter fun m => m.1 = name.toList with
  | [] => some none
  | [m] => some (some m.2)
  | _ => none

/-- Reads a field that has to be there. -/
def required {α : Type} (members : Members) (name : String) (read : Json → Option α) : Option α :=
  ((members.field? name).bind id).bind read

/-- Reads a field that may be missing. -/
def optional {α : Type} (members : Members) (name : String) (read : Json → Option α)
    (missing : α) : Option α :=
  (members.field? name).bind fun v? => v?.elim (some missing) read

/-! ## Values of fields -/

/-- A text. -/
def text? : Json → Option (List Char)
  | .string text => text
  | _ => none

/-- A natural number up to a bound. -/
def nat? (bound : Nat) : Json → Option Nat
  | .integer (.ofNat n) => if n ≤ bound then some n else none
  | _ => none

/-- An unsigned integer of 16 bits. -/
def word16? (v : Json) : Option UInt16 :=
  (nat? 65535 v).map UInt16.ofNat

/-- An unsigned integer of 32 bits. -/
def word32? (v : Json) : Option UInt32 :=
  (nat? 4294967295 v).map UInt32.ofNat

/-- An unsigned integer of 64 bits. -/
def word64? (v : Json) : Option UInt64 :=
  (nat? 18446744073709551615 v).map UInt64.ofNat

/-- A signed integer of 32 bits. -/
def int32? : Json → Option Int32
  | .integer n => if -2147483648 ≤ n ∧ n ≤ 2147483647 then some (Int32.ofInt n) else none
  | _ => none

/-- One of some named choices: its name, or an object with its name and `null`. -/
def choice? {α : Type} (choices : List (String × α)) (v : Json) : Option α :=
  let name? : Option (List Char) :=
    match v with
    | .string text => text
    | .object [(some name, .null)] => some name
    | _ => none
  name?.bind fun name => (choices.find? fun c => c.1.toList = name).map Prod.snd

/-! ## Writing -/

/-- A character inside a string. -/
def writeChar (c : Char) : List Char :=
  match shortEscapes.find? fun e => e.2 = c with
  | some e => ['\\', e.1]
  | none => if c.toNat < 0x20 then "\\u00".toList ++ hexByte (UInt8.ofNat c.toNat) else [c]

/-- A string. -/
def writeText (text : List Char) : List Char :=
  '"' :: text.flatMap writeChar ++ ['"']

/-- A record of fields and their written values. -/
def writeRecord (fields : List (String × List Char)) : List Char :=
  '{' :: joinWith ',' (fields.map fun f => writeText f.1.toList ++ ':' :: f.2) ++ ['}']

end Json

end RemotePad
