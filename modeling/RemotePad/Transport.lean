import RemotePad.Error
import RemotePad.Wire.Datagram

/-!
# Transports

A transport carries datagrams to one peer and back.  `Transport` lists what can be
done with one; the peer's behaviour is part of the transport's state, so a
statement about every transport is a statement about every peer.

`LawfulTransport` says when a transport is open: a successful `connect` opens it,
`disconnect` closes it, a failing `connect` does not open it, and traffic leaves
it as it is.
-/

namespace RemotePad

open Wire

/-- A channel for datagrams. -/
class Transport (τ : Type) where
  /-- Opens the channel, anew if it is open. -/
  connect : τ → Except TransportError Unit × τ
  /-- Closes the channel. -/
  disconnect : τ → τ
  /-- Whether the channel is open. -/
  isOpen : τ → Bool
  /-- Hands a datagram to the peer. -/
  send : τ → Datagram → Except TransportError Unit × τ
  /-- Takes what the peer sent. -/
  receive : τ → Except TransportError Payload × τ

/-- When a transport is open. -/
class LawfulTransport (τ : Type) [Transport τ] : Prop where
  isOpen_connect_ok : ∀ t : τ,
    (Transport.connect t).1 = .ok () → Transport.isOpen (Transport.connect t).2 = true
  isOpen_connect_error : ∀ (t : τ) (e : TransportError), (Transport.connect t).1 = .error e →
    Transport.isOpen (Transport.connect t).2 = true → Transport.isOpen t = true
  isOpen_disconnect : ∀ t : τ, Transport.isOpen (Transport.disconnect t) = false
  isOpen_send : ∀ (t : τ) (d : Datagram),
    Transport.isOpen (Transport.send t d).2 = Transport.isOpen t
  isOpen_receive : ∀ t : τ, Transport.isOpen (Transport.receive t).2 = Transport.isOpen t

end RemotePad
