import RemotePad.Json.Record
import RemotePad.Net.SocketAddr.Reader
import RemotePad.Settings

/-!
# Settings as JSON

Settings are a record with the same keys as in TOML, and a missing field keeps its
default as there.  All 64-bit numbers can be said.
-/

namespace RemotePad

namespace Settings

/-- A text that is an address. -/
def addrOfJson? (v : Json) : Option SocketAddr :=
  (Json.text? v).bind SocketAddr.parse?

/-- Reads settings from a record. -/
def ofMembers? (members : Json.Members) : Option Settings := do
  let localAddr ← Json.optional members localAddrKey addrOfJson? default.localAddr
  let serverAddr ← Json.optional members serverAddrKey addrOfJson? default.serverAddr
  let recvTimeoutMs ← Json.optional members recvTimeoutMsKey Json.word64? default.recvTimeoutMs
  let queueCapacity ← Json.optional members queueCapacityKey Json.word64? default.queueCapacity
  let version ← Json.optional members versionKey Json.word32? default.version
  return ⟨localAddr, serverAddr, recvTimeoutMs, queueCapacity, version⟩

/-- Reads settings. -/
def ofJson? (text : List Char) : Option Settings :=
  ((Json.parse? text).bind Json.record?).bind ofMembers?

/-- The written form of settings. -/
def json (s : Settings) : List Char :=
  Json.writeRecord
    [ (localAddrKey, Json.writeText s.localAddr.chars),
      (serverAddrKey, Json.writeText s.serverAddr.chars),
      (recvTimeoutMsKey, decimal s.recvTimeoutMs.toNat),
      (queueCapacityKey, decimal s.queueCapacity.toNat),
      (versionKey, decimal s.version.toNat) ]

end Settings

end RemotePad
