import RemotePad.Net.SocketAddr
import RemotePad.Transport

/-!
# UDP transports

A UDP transport has a socket at a fixed local address and talks to a fixed peer.  Sockets belong
to the system: `Sockets` lists what is asked of them, and what comes of it is up to them.

* `UdpEndpoint`: where to listen, whom to talk to and how long to wait.
* `UdpEndpoint.createSocket`: the stages in which a socket is set up.  The endpoint is checked
  before a socket is asked for.
* `UdpTransport`: an endpoint with its socket, if it is open.  It is lawful over all sockets.
* `UdpEndpoint.unplugged`: a transport where there are no sockets.  It never opens, so its endpoint
  says all about it and is used as the transport itself.
-/

namespace RemotePad

open Wire

/-! ## Sockets -/

/-- What the system reports when a socket fails. -/
structure SocketFault where
  text : String
  /-- Nothing worse happened than that the time to wait is over. -/
  expired : Bool := false
  deriving Repr, DecidableEq

/-- What is asked of sockets. -/
class Sockets (σ : Type) where
  /-- Makes a socket for addresses of the same family. -/
  create : SocketAddr → Except SocketFault σ
  /-- Allows the address to be in use. -/
  reuseAddress : σ → Except SocketFault σ
  /-- Limits how long to wait for a datagram, in milliseconds. -/
  limitWait : UInt64 → σ → Except SocketFault σ
  /-- Takes a local address. -/
  bindTo : SocketAddr → σ → Except SocketFault σ
  /-- The local address that was taken. -/
  boundAddr : σ → Option SocketAddr
  /-- Sends a datagram to an address. -/
  sendTo : SocketAddr → Datagram → σ → Except SocketFault Unit × σ
  /-- Takes what arrives next. -/
  receive : σ → Except SocketFault (List UInt8) × σ

/-! ## Endpoints -/

/-- A configured endpoint. -/
structure UdpEndpoint where
  /-- Where to listen. -/
  localAddr : SocketAddr
  /-- Where the companion server listens. -/
  peerAddr : SocketAddr
  /-- How long to wait for a datagram, in milliseconds. -/
  timeoutMs : UInt64
  deriving Repr, DecidableEq

/-- A stage of the setup; its fault is reported under its name. -/
def setupStage {α : Type} (name : String) (result : Except SocketFault α) :
    Except TransportError α :=
  result.mapError fun fault => .setup name fault.text

/-- Sets a socket up.  A wait of zero length would never end, so it is refused first. -/
def UdpEndpoint.createSocket {σ : Type} [Sockets σ] (u : UdpEndpoint) :
    Except TransportError σ := do
  if u.timeoutMs = 0 then
    throw (.setup "read_timeout" "receive timeout must be non-zero")
  let made : σ ← setupStage "create" (Sockets.create u.localAddr)
  let reusing ← setupStage "reuse_address" (Sockets.reuseAddress made)
  let limited ← setupStage "read_timeout" (Sockets.limitWait u.timeoutMs reusing)
  setupStage "bind" (Sockets.bindTo u.localAddr limited)

/-! ## Transports -/

/-- An endpoint and its socket. -/
structure UdpTransport (σ : Type) extends UdpEndpoint where
  /-- The socket of an open transport. -/
  socket : Option σ := none

namespace UdpTransport

variable {σ : Type} [Sockets σ]

/-- Opens a new socket; the one that was open is given up first. -/
def connect (t : UdpTransport σ) : Except TransportError Unit × UdpTransport σ :=
  match (t.createSocket : Except TransportError σ) with
  | .ok s => (.ok (), { t with socket := some s })
  | .error e => (.error e, { t with socket := none })

/-- Sends a datagram to the peer. -/
def send (t : UdpTransport σ) (d : Datagram) : Except TransportError Unit × UdpTransport σ :=
  match t.socket with
  | none => (.error .notOpen, t)
  | some s =>
    let sent := Sockets.sendTo t.peerAddr d s
    (sent.1.mapError fun fault => .io fault.text, { t with socket := some sent.2 })

/-- What a fault means to someone who waits for a datagram. -/
def receiveFault (fault : SocketFault) : TransportError :=
  if fault.expired then .timeout else .io fault.text

/-- Takes the datagram that arrives next, cut to the length of a datagram. -/
def receive (t : UdpTransport σ) : Except TransportError Payload × UdpTransport σ :=
  match t.socket with
  | none => (.error .notOpen, t)
  | some s =>
    let received := Sockets.receive s
    ((received.1.map Payload.ofBytes).mapError receiveFault, { t with socket := some received.2 })

/-- The address that the socket has. -/
def boundAddr (t : UdpTransport σ) : Option SocketAddr :=
  t.socket.bind Sockets.boundAddr

instance : Transport (UdpTransport σ) where
  connect := connect
  disconnect := fun t => { t with socket := none }
  isOpen := fun t => t.socket.isSome
  send := send
  receive := receive

/-- Opening leaves the transport open exactly when it succeeds. -/
theorem isOpen_connect (t : UdpTransport σ) :
    Transport.isOpen (Transport.connect t).2 = (Transport.connect t).1.toBool := by
  simp only [Transport.connect, connect]
  split <;> rfl

instance : LawfulTransport (UdpTransport σ) where
  isOpen_connect_ok := fun t opened => by rw [isOpen_connect, opened]; rfl
  isOpen_connect_error := fun t e failed isOpen => by
    rw [isOpen_connect, failed] at isOpen
    cases isOpen
  isOpen_disconnect := fun _ => rfl
  isOpen_send := fun t d => by
    simp only [Transport.send, Transport.isOpen, send]
    split
    · rfl
    · next hs => rw [hs]; rfl
  isOpen_receive := fun t => by
    simp only [Transport.receive, Transport.isOpen, receive]
    split
    · rfl
    · next hs => rw [hs]; rfl

end UdpTransport

/-! ## Where there are no sockets -/

/-- The sockets where there is no network: none. -/
inductive NoSocket

instance : Sockets NoSocket where
  create := fun _ => .error { text := "network is unreachable" }
  reuseAddress := nofun
  limitWait := fun _ s => nomatch s
  bindTo := fun _ s => nomatch s
  boundAddr := nofun
  sendTo := fun _ _ s => nomatch s
  receive := nofun

namespace UdpEndpoint

/-- The transport at an endpoint where there are no sockets. -/
def unplugged (u : UdpEndpoint) : UdpTransport NoSocket :=
  { u with }

/-- The address of the socket, if there were one. -/
def boundAddr (u : UdpEndpoint) : Option SocketAddr :=
  u.unplugged.boundAddr

instance : Transport UdpEndpoint where
  connect := fun u => (Transport.connect u.unplugged).map id UdpTransport.toUdpEndpoint
  disconnect := fun u => (Transport.disconnect u.unplugged).toUdpEndpoint
  isOpen := fun u => Transport.isOpen u.unplugged
  send := fun u d => (Transport.send u.unplugged d).map id UdpTransport.toUdpEndpoint
  receive := fun u => (Transport.receive u.unplugged).map id UdpTransport.toUdpEndpoint

end UdpEndpoint

end RemotePad
