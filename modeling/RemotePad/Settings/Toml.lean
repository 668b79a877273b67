import RemotePad.Net.SocketAddr.Reader
import RemotePad.Settings
import RemotePad.Toml.Document

/-!
# Settings as TOML

Written settings are five lines, one for each field in order.  When settings are
read, a missing key keeps its default and an unknown key has no meaning.

* `Settings.toToml?` is the written form.  The integers of TOML have 64 bits with a
  sign, so greater numbers have no written form.
* `Settings.ofToml?` reads the settings of a document.  Addresses are strings and
  numbers are integers in the range of their field.
-/

namespace RemotePad

namespace Settings

/-! ## Writing -/

/-- The greatest integer that TOML can say. -/
def tomlMax : Nat := 9223372036854775807

/-- A key and its value on a line. -/
def tomlLine (key : String) (value : List Char) : List Char :=
  key.toList ++ " = ".toList ++ value ++ ['\n']

/-- A text in quotes.  It must not contain quotes, backslashes or control characters. -/
def tomlQuoted (text : List Char) : List Char :=
  '"' :: text ++ ['"']

/-- The lines of settings whose numbers can be said. -/
def tomlLines (s : Settings) : List Char :=
  tomlLine localAddrKey (tomlQuoted s.localAddr.chars) ++
  tomlLine serverAddrKey (tomlQuoted s.serverAddr.chars) ++
  tomlLine recvTimeoutMsKey (decimal s.recvTimeoutMs.toNat) ++
  tomlLine queueCapacityKey (decimal s.queueCapacity.toNat) ++
  tomlLine versionKey (decimal s.version.toNat)

/-- The written form of settings, if their numbers can be said. -/
def toToml? (s : Settings) : Option (List Char) :=
  if s.recvTimeoutMs.toNat ≤ tomlMax ∧ s.queueCapacity.toNat ≤ tomlMax then some s.tomlLines
  else none

/-! ## Reading -/

/-- A string that is an address. -/
def addrOfToml? : Toml.Value → Option SocketAddr
  | .string text => SocketAddr.parse? text
  | _ => none

/-- An integer from zero to a bound. -/
def natOfToml? (bound : Nat) : Toml.Value → Option Nat
  | .integer (.ofNat n) => if n ≤ bound then some n else none
  | _ => none

/-- An unsigned integer of 64 bits. -/
def word64OfToml? (v : Toml.Value) : Option UInt64 :=
  (natOfToml? 18446744073709551615 v).map UInt64.ofNat

/-- An unsigned integer of 32 bits. -/
def word32OfToml? (v : Toml.Value) : Option UInt32 :=
  (natOfToml? 4294967295 v).map UInt32.ofNat

/-- Reads the value of a key; without the key, the value is `missing`. -/
def tomlField {α : Type} (entries : Toml.Entries) (key : String)
    (read : Toml.Value → Option α) (missing : α) : Option α :=
  match entries.get? key.toList with
  | some v => read v
  | none => some missing

/-- The settings that the entries of a document describe. -/
def ofTomlEntries? (entries : Toml.Entries) : Option Settings := do
  let localAddr ← tomlField entries localAddrKey addrOfToml? default.localAddr
  let serverAddr ← tomlField entries serverAddrKey addrOfToml? default.serverAddr
  let recvTimeoutMs ← tomlField entries recvTimeoutMsKey word64OfToml? default.recvTimeoutMs
  let queueCapacity ← tomlField entries queueCapacityKey word64OfToml? default.queueCapacity
  let version ← tomlField entries versionKey word32OfToml? default.version
  return ⟨localAddr, serverAddr, recvTimeoutMs, queueCapacity, version⟩

/-- Reads settings. -/
def ofToml? (text : List Char) : Option Settings :=
  (Toml.parse? text).bind ofTomlEntries?

end Settings

end RemotePad
