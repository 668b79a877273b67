import RemotePad.Net.SocketAddr

/-!
# Bridge settings

Where the bridge listens, where the companion server listens, how long to wait for
a datagram, how many events to keep, and which host version to imitate.

`SettingsError` lists what can go wrong between settings and their written form.
-/

namespace RemotePad

/-! ## Settings -/

/-- The settings of a bridge. -/
structure Settings where
  localAddr : SocketAddr
  serverAddr : SocketAddr
  /-- How long to wait for a datagram, in milliseconds. -/
  recvTimeoutMs : UInt64
  queueCapacity : UInt64
  /-- Version of the host interface. -/
  version : UInt32
  deriving Repr, DecidableEq

/-- Both ends on this host, two seconds, 64 events, version eight. -/
def Settings.default : Settings where
  localAddr := .v4 .loopback 7948
  serverAddr := .v4 .loopback 7947
  recvTimeoutMs := 2000
  queueCapacity := 64
  version := 0x0800

instance : Inhabited Settings := ⟨Settings.default⟩

/-- The waiting time in milliseconds. -/
def Settings.recvTimeout (s : Settings) : Nat :=
  s.recvTimeoutMs.toNat

/-! ## Keys -/

namespace Settings

/-- Key of `localAddr` in written settings. -/
def localAddrKey : String := "local_addr"

/-- Key of `serverAddr` in written settings. -/
def serverAddrKey : String := "server_addr"

/-- Key of `recvTimeoutMs` in written settings. -/
def recvTimeoutMsKey : String := "recv_timeout_ms"

/-- Key of `queueCapacity` in written settings. -/
def queueCapacityKey : String := "queue_capacity"

/-- Key of `version` in written settings. -/
def versionKey : String := "version"

end Settings

/-! ## Errors -/

/-- What can go wrong between settings and their written form. -/
inductive SettingsError where
  /-- A file could not be read or written. -/
  | io (text : String)
  /-- The text does not describe settings. -/
  | parse
  /-- The settings have no written form. -/
  | serialize
  deriving Repr, DecidableEq

/-- The error in words. -/
def SettingsError.message : SettingsError → String
  | .io text => "config I/O failed: " ++ text
  | .parse => "TOML parse error"
  | .serialize => "TOML serialize error"

end RemotePad
