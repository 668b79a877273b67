import RemotePad.Proofs.Device.Lifecycle
import RemotePad.Proofs.Transport.View

/-!
# Tapped transports

A tapped transport is any transport with a record of what is done with it.  It does what the
transport does, so whatever is read off the record of a run holds of the run without it.

* `Tapped`, `Tapped.Call`: the transport and the record, oldest call first.
* `Tapped.view`: without the record it is the transport itself.
* `Session.releases`: how many releases of a pad were handed to the transport.  Searching,
  asking for reports and reading hand over none, and giving a pad back hands over one.
-/

namespace RemotePad

open Wire

variable {τ : Type}

/-- What can be done with a transport. -/
inductive Tapped.Call where
  | connect
  | disconnect
  | send (d : Datagram)
  | receive
  deriving Repr, DecidableEq

/-- A transport, and what was done with it. -/
structure Tapped (τ : Type) where
  link : τ
  calls : List Tapped.Call := []

namespace Tapped

instance [Transport τ] : Transport (Tapped τ) where
  connect := fun t =>
    ((Transport.connect t.link).1, ⟨(Transport.connect t.link).2, t.calls ++ [.connect]⟩)
  disconnect := fun t => ⟨Transport.disconnect t.link, t.calls ++ [.disconnect]⟩
  isOpen := fun t => Transport.isOpen t.link
  send := fun t d =>
    ((Transport.send t.link d).1, ⟨(Transport.send t.link d).2, t.calls ++ [.send d]⟩)
  receive := fun t =>
    ((Transport.receive t.link).1, ⟨(Transport.receive t.link).2, t.calls ++ [.receive]⟩)

instance [Transport τ] [LawfulTransport τ] : LawfulTransport (Tapped τ) where
  isOpen_connect_ok := fun t => LawfulTransport.isOpen_connect_ok t.link
  isOpen_connect_error := fun t => LawfulTransport.isOpen_connect_error t.link
  isOpen_disconnect := fun t => LawfulTransport.isOpen_disconnect t.link
  isOpen_send := fun t => LawfulTransport.isOpen_send t.link
  isOpen_receive := fun t => LawfulTransport.isOpen_receive t.link

/-- Nothing tells a tapped transport from the transport. -/
theorem view [Transport τ] : Transport.View (link : Tapped τ → τ) :=
  ⟨fun _ => rfl, fun _ => rfl, fun _ => rfl, fun _ _ => rfl, fun _ => rfl⟩

/-! ## Releases -/

/-- The call hands the release of a pad to the transport: a datagram of code 10. -/
def Call.isRelease : Call → Bool
  | .send d => d.bytes.head? = some 10
  | _ => false

/-- How many releases were handed to the transport. -/
def releases (t : Tapped τ) : Nat :=
  t.calls.countP Call.isRelease

end Tapped

namespace Session

/-- How many releases were handed to the transport. -/
def releases (s : Session (Tapped τ)) : Nat :=
  s.link.releases

variable [Transport τ]

@[simp] theorem releases_connect (s : Session (Tapped τ)) : s.connect.2.releases = s.releases :=
  (List.countP_append).trans (Nat.add_zero _)

@[simp] theorem releases_disconnect (s : Session (Tapped τ)) :
    s.disconnect.releases = s.releases :=
  (List.countP_append).trans (Nat.add_zero _)

@[simp] theorem releases_receive (s : Session (Tapped τ)) : s.receive.2.releases = s.releases :=
  (List.countP_append).trans (Nat.add_zero _)

/-- The request for a pad is no release. -/
@[simp] theorem releases_request (s : Session (Tapped τ)) (notify wantName : Bool) :
    (s.request notify wantName).2.releases = s.releases := by
  have hcode : Tapped.Call.isRelease (.send (getGamepadRequest notify)) = false := by
    cases notify <;> decide
  have hsend : (⟨(Transport.send s.link (getGamepadRequest notify)).2, s.binding, s.sequence⟩ :
      Session (Tapped τ)).releases = s.releases := by
    show List.countP _ (s.link.calls ++ [_]) = _
    rw [List.countP_append, List.countP_singleton, hcode]
    rfl
  unfold request
  simp only
  split
  · exact hsend
  · have hreceive := releases_receive
      ⟨(Transport.send s.link (getGamepadRequest notify)).2, s.binding, s.sequence⟩
    split <;> exact hreceive.trans hsend

@[simp] theorem releases_acquire (s : Session (Tapped τ)) (notify wantName : Bool) :
    (s.acquire notify wantName).2.releases = s.releases := by
  have hrequest := s.releases_request notify wantName
  unfold acquire
  simp only
  split <;> exact hrequest

@[simp] theorem releases_release (s : Session (Tapped τ)) :
    s.release.releases = s.releases + 1 :=
  List.countP_append

end Session

namespace Device

variable [Transport τ]

@[simp] theorem releases_discover (s : Session (Tapped τ)) (version : UInt32) :
    (discover s version).2.releases = s.releases := by
  unfold discover
  simp only
  split
  · exact s.releases_connect
  · split <;> exact (Session.releases_acquire _ _ _).trans s.releases_connect

theorem releases_probe (s : Session (Tapped τ)) (version : UInt32) :
    (probe s version).2.releases = s.releases := by
  rw [(probe_discover s version).1, releases_discover]

theorem releases_create (s : Shared (Tapped τ)) (version : UInt32) :
    (create s version).2.session.releases = s.session.releases := by
  rw [session_create, releases_discover]

@[simp] theorem releases_requestInput (s : Session (Tapped τ)) :
    (requestInput s).2.releases = s.releases := by
  unfold requestInput
  cases s.isOpen with
  | true => exact s.releases_acquire true false
  | false =>
    simp only [Bool.false_eq_true, if_false]
    split
    · exact s.releases_connect
    · exact (Session.releases_acquire _ _ _).trans s.releases_connect

theorem releases_acquire (d : Device) (s : Shared (Tapped τ)) :
    (d.acquire s).2.2.session.releases = s.session.releases := by
  unfold acquire
  split
  · rfl
  · rfl
  · simp only
    split <;> exact releases_requestInput s.session

theorem releases_read (d : Device) (s : Shared (Tapped τ)) :
    (d.read s).2.2.session.releases = s.session.releases := by
  rcases d.read_cases s with ⟨_, hread⟩ | ⟨_, _, s', rfl | rfl, hread⟩ | ⟨_, report, _, hread⟩
  · rw [hread]
  · rw [hread]
  · rw [hread]
    exact s.session.releases_receive
  · rw [hread, (d.accept_frame report { s with session := s.session.receive.2 }).2.1]
    exact s.session.releases_receive

/-- Giving back an acquired pad hands over one release. -/
theorem releases_unacquire {d : Device} {s : Shared (Tapped τ)} {r : Device × Shared (Tapped τ)}
    (returned : d.unacquire s = some r) :
    r.2.session.releases = s.session.releases + if d.lifecycle = .acquired then 1 else 0 := by
  rcases d.unacquire_cases s with h | ⟨idle, h⟩ | ⟨acquired, h⟩ <;> rw [h] at returned <;>
    cases returned
  · rw [if_neg idle]
    rfl
  · rw [if_pos acquired]
    simp

theorem releases_close {d : Device} {s : Shared (Tapped τ)} {r : Device × Shared (Tapped τ)}
    (returned : d.close s = some r) :
    r.2.session.releases = s.session.releases + if d.lifecycle = .acquired then 1 else 0 := by
  rcases d.close_cases s with h | ⟨stage, h⟩ | ⟨stage, h⟩ | ⟨stage, h⟩ <;> rw [h] at returned <;>
    cases returned <;> simp [stage]

end Device

namespace Manager

variable [Transport τ]

theorem releases_acquireEach (ds : List Device) (s : Shared (Tapped τ)) :
    (acquireEach ds s).2.2.session.releases = s.session.releases := by
  induction ds generalizing s with
  | nil => rfl
  | cons d rest ih => exact (ih (d.acquire s).2.2).trans (d.releases_acquire s)

theorem releases_readEach (ds : List Device) (s : Shared (Tapped τ)) :
    (readEach ds s).2.2.session.releases = s.session.releases := by
  induction ds generalizing s with
  | nil => rfl
  | cons d rest ih => exact (ih (d.read s).2.2).trans (d.releases_read s)

/-- Closing devices in order hands over one release for each that was acquired. -/
theorem releases_closeEach {ds : List Device} {s s' : Shared (Tapped τ)}
    (returned : closeEach ds s = some s') :
    s'.session.releases = s.session.releases + ds.countP fun d => d.lifecycle = .acquired := by
  induction ds generalizing s with
  | nil =>
    cases returned
    rfl
  | cons d rest ih =>
    obtain ⟨r, hclose, hrest⟩ := Option.bind_eq_some_iff.mp returned
    rw [ih hrest, Device.releases_close hclose]
    simp only [List.countP_cons, decide_eq_true_eq]
    omega

end Manager

end RemotePad
