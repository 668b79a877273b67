import RemotePad.Transport

/-!
# A scripted peer

`ScriptedPeer` is a transport without a network: what it will deliver and how it
will fail is written down beforehand, and what is sent to it is recorded.
-/

namespace RemotePad

open Wire

/-- A transport whose peer follows a script. -/
structure ScriptedPeer where
  open? : Bool := false
  /-- How often the channel was opened. -/
  openings : Nat := 0
  /-- What will be received, first item first. -/
  inbox : List (Except TransportError Payload) := []
  /-- What was sent, oldest first. -/
  sent : List Datagram := []
  /-- The error that opening fails with, if it is to fail. -/
  openFault : Option TransportError := none
  /-- The error that sending fails with, if it is to fail. -/
  sendFault : Option TransportError := none

namespace ScriptedPeer

/-- Adds an item behind what will be received. -/
def queue (p : ScriptedPeer) (item : Except TransportError Payload) : ScriptedPeer :=
  { p with inbox := p.inbox ++ [item] }

/-- Forgets what would be received. -/
def flush (p : ScriptedPeer) : ScriptedPeer :=
  { p with inbox := [] }

/-- Opens the channel unless it is to fail. -/
def connect (p : ScriptedPeer) : Except TransportError Unit × ScriptedPeer :=
  match p.openFault with
  | some e => (.error e, p)
  | none => (.ok (), { p with open? := true, openings := p.openings + 1 })

/-- Records a datagram; a closed channel is noticed before a fault. -/
def send (p : ScriptedPeer) (d : Datagram) : Except TransportError Unit × ScriptedPeer :=
  if p.open? then
    match p.sendFault with
    | some e => (.error e, p)
    | none => (.ok (), { p with sent := p.sent ++ [d] })
  else (.error .notOpen, p)

/-- Takes the next item; an empty inbox is a timeout. -/
def receive (p : ScriptedPeer) : Except TransportError Payload × ScriptedPeer :=
  if p.open? then
    match p.inbox with
    | [] => (.error .timeout, p)
    | item :: rest => (item, { p with inbox := rest })
  else (.error .notOpen, p)

instance : Transport ScriptedPeer where
  connect := connect
  disconnect := fun p => { p with open? := false }
  isOpen := open?
  send := send
  receive := receive

instance : LawfulTransport ScriptedPeer where
  isOpen_connect_ok := by
    intro p h
    simp only [Transport.connect, Transport.isOpen, connect] at h ⊢
    split <;> simp_all
  isOpen_connect_error := by
    intro p e h ho
    simp only [Transport.connect, Transport.isOpen, connect] at h ho ⊢
    split at ho <;> simp_all
  isOpen_disconnect := fun _ => rfl
  isOpen_send := by
    intro p d
    simp only [Transport.send, Transport.isOpen, send]
    split
    · split <;> rfl
    · rfl
  isOpen_receive := by
    intro p
    simp only [Transport.receive, Transport.isOpen, receive]
    split
    · split <;> rfl
    · rfl

end ScriptedPeer

end RemotePad
