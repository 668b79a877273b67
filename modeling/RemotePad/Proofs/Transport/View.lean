import RemotePad.Host
import RemotePad.Proofs.Tracker.Run

/-!
# Seeing one transport as another

A transport may keep more about itself than another one and otherwise do the same.  Then a host
over the one is a host over the other, and nothing that it does tells them apart.

* `Transport.View`: a map of transports with which everything that is done to them commutes.
* `Session.map`, `Shared.map`, `Host.map`: the same session, ground and host over the other
  transport.
* `Transport.View.perform` and `Transport.View.run`: every action and every run has the same
  replies, and comes to the same host.
-/

namespace RemotePad

variable {τ σ : Type}

/-! ## The same over another transport -/

/-- The session over another transport. -/
def Session.map (f : τ → σ) (s : Session τ) : Session σ :=
  { link := f s.link, binding := s.binding, sequence := s.sequence }

/-- The shared ground over another transport. -/
def Shared.map (f : τ → σ) (s : Shared τ) : Shared σ :=
  { session := s.session.map f, signals := s.signals }

/-- The host over another transport. -/
def Host.map (f : τ → σ) (h : Host τ) : Host σ :=
  { shared := h.shared.map f, devices := h.devices, managers := h.managers, watched := h.watched }

/-- Whatever is done to a transport is done to what it is seen as, with the same result. -/
structure Transport.View [Transport τ] [Transport σ] (f : τ → σ) : Prop where
  connect : ∀ t, Transport.connect (f t) = ((Transport.connect t).1, f (Transport.connect t).2)
  disconnect : ∀ t, Transport.disconnect (f t) = f (Transport.disconnect t)
  isOpen : ∀ t, Transport.isOpen (f t) = Transport.isOpen t
  send : ∀ t d, Transport.send (f t) d = ((Transport.send t d).1, f (Transport.send t d).2)
  receive : ∀ t, Transport.receive (f t) = ((Transport.receive t).1, f (Transport.receive t).2)

namespace Transport.View

variable [Transport τ] [Transport σ] {f : τ → σ}

/-! ## Sessions -/

theorem session_connect (view : View f) (s : Session τ) :
    (s.map f).connect = (s.connect.1, s.connect.2.map f) := by
  simp only [Session.connect, Session.map, view.connect]

theorem session_disconnect (view : View f) (s : Session τ) :
    (s.map f).disconnect = s.disconnect.map f := by
  simp only [Session.disconnect, Session.map, view.disconnect]

theorem session_isOpen (view : View f) (s : Session τ) : (s.map f).isOpen = s.isOpen :=
  view.isOpen s.link

theorem session_receive (view : View f) (s : Session τ) :
    (s.map f).receive = (s.receive.1, s.receive.2.map f) := by
  simp only [Session.receive, Session.map, view.receive]

theorem session_request (view : View f) (s : Session τ) (notify wantName : Bool) :
    (s.map f).request notify wantName =
      ((s.request notify wantName).1, (s.request notify wantName).2.map f) := by
  simp only [Session.request, Session.map, view.send]
  cases (Transport.send s.link (Wire.getGamepadRequest notify)).1 with
  | error e => rfl
  | ok _ =>
    simp only [view.receive]
    cases (Transport.receive (Transport.send s.link (Wire.getGamepadRequest notify)).2).1 <;> rfl

theorem session_acquire (view : View f) (s : Session τ) (notify wantName : Bool) :
    (s.map f).acquire notify wantName =
      ((s.acquire notify wantName).1, (s.acquire notify wantName).2.map f) := by
  simp only [Session.acquire, view.session_request]
  cases (s.request notify wantName).1 <;> rfl

theorem session_release (view : View f) (s : Session τ) :
    (s.map f).release = s.release.map f := by
  simp only [Session.release, Session.map, view.send]

/-! ## Devices -/

theorem discover (view : View f) (s : Session τ) (version : UInt32) :
    Device.discover (s.map f) version =
      ((Device.discover s version).1, (Device.discover s version).2.map f) := by
  simp only [Device.discover, view.session_connect]
  cases s.connect.1 with
  | error e => rfl
  | ok _ =>
    simp only [view.session_acquire]
    cases (s.connect.2.acquire false true).1 <;> rfl

theorem probe (view : View f) (s : Session τ) (version : UInt32) :
    Device.probe (s.map f) version =
      ((Device.probe s version).1, (Device.probe s version).2.map f) := by
  simp only [Device.probe, view.discover]
  cases (Device.discover s version).1 <;> rfl

theorem create (view : View f) (s : Shared τ) (version : UInt32) :
    Device.create (s.map f) version =
      ((Device.create s version).1, (Device.create s version).2.map f) := by
  simp only [Device.create, Shared.map, view.discover]
  cases (Device.discover s.session version).1 with
  | error e => rfl
  | ok identity =>
    cases hbinding : (Device.discover s.session version).2.binding <;>
      simp only [Session.map, hbinding]

theorem requestInput (view : View f) (s : Session τ) :
    Device.requestInput (s.map f) =
      ((Device.requestInput s).1, (Device.requestInput s).2.map f) := by
  simp only [Device.requestInput, view.session_isOpen, view.session_connect]
  cases s.isOpen with
  | true => simp only [if_true, view.session_acquire]
  | false =>
    simp only [Bool.false_eq_true, if_false]
    cases s.connect.1 with
    | error e => rfl
    | ok _ => simp only [view.session_acquire]

theorem acquire (view : View f) (d : Device) (s : Shared τ) :
    d.acquire (s.map f) =
      ((d.acquire s).1, (d.acquire s).2.1, (d.acquire s).2.2.map f) := by
  cases hd : d.lifecycle with
  | closed => simp only [Device.acquire, hd]
  | acquired => simp only [Device.acquire, hd]
  | bound =>
    simp only [Device.acquire, hd, Shared.map, view.requestInput]
    cases (Device.requestInput s.session).1 <;> rfl

theorem unacquire (view : View f) (d : Device) (s : Shared τ) :
    d.unacquire (s.map f) = (d.unacquire s).map fun r => (r.1, r.2.map f) := by
  unfold Device.unacquire
  split
  · simp only [Shared.map, view.session_release, view.session_disconnect]
    cases d.passGate s.signals <;> rfl
  · rfl

theorem close (view : View f) (d : Device) (s : Shared τ) :
    d.close (s.map f) = (d.close s).map fun r => (r.1, r.2.map f) := by
  unfold Device.close
  split
  · rfl
  · rw [view.unacquire]
    cases d.unacquire s <;> rfl

omit [Transport τ] [Transport σ] in
theorem accept (d : Device) (report : Wire.StateReport) (s : Shared τ) (f : τ → σ) :
    d.accept report (s.map f) =
      ((d.accept report s).1, (d.accept report s).2.1, (d.accept report s).2.2.map f) := by
  unfold Device.accept
  simp only [Tracker.apply_nextSequence]
  split
  · next named =>
    rw [if_pos (show s.session.boundId.map GamepadId.value = some report.id from named)]
    rfl
  · next foreign =>
    rw [if_neg (show ¬ s.session.boundId.map GamepadId.value = some report.id from foreign)]

theorem read (view : View f) (d : Device) (s : Shared τ) :
    d.read (s.map f) = ((d.read s).1, (d.read s).2.1, (d.read s).2.2.map f) := by
  have hopen : (s.map f).session.isOpen = s.session.isOpen := view.session_isOpen s.session
  have hreceive : (s.map f).session.receive =
      (s.session.receive.1, s.session.receive.2.map f) := view.session_receive s.session
  simp only [Device.read, hopen, hreceive]
  split
  · rfl
  · split
    · rfl
    · cases s.session.receive.1 with
      | error e => rfl
      | ok payload =>
        simp only
        cases Wire.StateReport.decode payload.bytes with
        | error e => rfl
        | ok report =>
          have haccept := accept d report { s with session := s.session.receive.2 } f
          exact congrArg (fun r => (Except.ok r.1, r.2)) haccept

/-! ## Managers -/

theorem acquireEach (view : View f) (ds : List Device) (s : Shared τ) :
    Manager.acquireEach ds (s.map f) =
      ((Manager.acquireEach ds s).1, (Manager.acquireEach ds s).2.1,
        (Manager.acquireEach ds s).2.2.map f) := by
  induction ds generalizing s with
  | nil => rfl
  | cons d rest ih => simp only [Manager.acquireEach, view.acquire, ih]

theorem readEach (view : View f) (ds : List Device) (s : Shared τ) :
    Manager.readEach ds (s.map f) =
      ((Manager.readEach ds s).1, (Manager.readEach ds s).2.1,
        (Manager.readEach ds s).2.2.map f) := by
  induction ds generalizing s with
  | nil => rfl
  | cons d rest ih => simp only [Manager.readEach, view.read, ih]

theorem closeEach (view : View f) (ds : List Device) (s : Shared τ) :
    Manager.closeEach ds (s.map f) = (Manager.closeEach ds s).map (Shared.map f) := by
  induction ds generalizing s with
  | nil => rfl
  | cons d rest ih =>
    simp only [Manager.closeEach, view.close]
    cases d.close s with
    | none => rfl
    | some r => exact ih r.2

theorem shutdown (view : View f) (m : Manager) (s : Shared τ) :
    m.shutdown (s.map f) = (m.shutdown s).map fun r => (r.1, r.2.map f) := by
  simp only [Manager.shutdown, view.closeEach]
  cases Manager.closeEach m.devices s <;> rfl

theorem openGamepad (view : View f) (m : Manager) (s : Shared τ) :
    m.openGamepad (s.map f) =
      ((m.openGamepad s).1, (m.openGamepad s).2.1, (m.openGamepad s).2.2.map f) := by
  simp only [Manager.openGamepad, view.create]
  cases (Device.create s m.settings.version).1 <;> rfl

/-! ## Hosts -/

omit [Transport τ] [Transport σ] in
theorem device?_map (f : τ → σ) (h : Host τ) (target : DeviceRef) :
    (h.map f).device? target = h.device? target := by
  cases target <;> rfl

omit [Transport τ] [Transport σ] in
theorem setDevice_map (f : τ → σ) (h : Host τ) (s : Shared τ) (d : Device) (target : DeviceRef) :
    ({ h.map f with shared := s.map f } : Host σ).setDevice d target =
      (({ h with shared := s } : Host τ).setDevice d target).map f := by
  cases target with
  | own n => rfl
  | managed k n =>
    simp only [Host.setDevice]
    cases hm : h.manager? k with
    | none =>
      have hm' : ({ h.map f with shared := s.map f } : Host σ).manager? k = none := hm
      have hm'' : ({ h with shared := s } : Host τ).manager? k = none := hm
      simp only [hm', hm'']
      rfl
    | some m =>
      have hm' : ({ h.map f with shared := s.map f } : Host σ).manager? k = some m := hm
      have hm'' : ({ h with shared := s } : Host τ).manager? k = some m := hm
      simp only [hm', hm'']
      rfl

omit [Transport τ] [Transport σ] in
theorem drawNumbers (n : Nat) (s : Session τ) :
    Host.drawNumbers n (s.map f) = ((Host.drawNumbers n s).1, (Host.drawNumbers n s).2.map f) := by
  induction n generalizing s with
  | zero => rfl
  | succ n ih =>
    have hnext : (s.map f).nextSequence = (s.nextSequence.1, s.nextSequence.2.map f) := rfl
    simp only [Host.drawNumbers, hnext, ih]

theorem performOnDevice (view : View f) (h : Host τ) (target : DeviceRef) (d : Device)
    (action : DeviceAction) :
    (h.map f).performOnDevice target d action =
      ((h.performOnDevice target d action).1, (h.performOnDevice target d action).2.map f) := by
  have hshared : (h.map f).shared = h.shared.map f := rfl
  have set := setDevice_map f h
  cases action with
  | acquire => simp only [Host.performOnDevice, hshared, view.acquire, set]
  | read => simp only [Host.performOnDevice, hshared, view.read, set]
  | unacquire =>
    simp only [Host.performOnDevice, hshared, view.unacquire]
    cases d.unacquire h.shared with
    | none => rfl
    | some r => simp only [Option.map_some, set]
  | close =>
    simp only [Host.performOnDevice, hshared, view.close]
    cases d.close h.shared with
    | none => rfl
    | some r => simp only [Option.map_some, set]
  | setCalibration filter c => exact congrArg (Prod.mk _) (set h.shared _ target)
  | notifyOn =>
    have hset := set h.shared { d with notify := some h.shared.signals.fresh.1 } target
    simp only [Host.performOnDevice]
    refine congrArg (Prod.mk _) ?_
    exact congrArg (fun g : Host σ => { g with
      shared := { g.shared with signals := h.shared.signals.fresh.2 }
      watched := (target, h.shared.signals.fresh.1) :: g.watched }) hset
  | notifyOff => exact congrArg (Prod.mk _) (set h.shared { d with notify := none } target)
  | notifyReset =>
    have hwatched : (h.map f).watchedHandle? target = h.watchedHandle? target := rfl
    simp only [Host.performOnDevice, hwatched]
    cases h.watchedHandle? target <;> rfl

theorem performOnManager (view : View f) (h : Host τ) (k : Nat) (m : Manager)
    (action : ManagerAction) :
    (h.map f).performOnManager k m action =
      ((h.performOnManager k m action).1, (h.performOnManager k m action).2.map f) := by
  have hshared : (h.map f).shared = h.shared.map f := rfl
  have hsession : (h.map f).shared.session = h.shared.session.map f := rfl
  cases action with
  | discover =>
    simp only [Host.performOnManager, Manager.discover, hsession, view.probe]
    rfl
  | openGamepad =>
    simp only [Host.performOnManager, hshared, view.openGamepad]
    rfl
  | acquireAll =>
    simp only [Host.performOnManager, Manager.acquireAll, hshared, view.acquireEach]
    rfl
  | poll =>
    simp only [Host.performOnManager, Manager.poll, hshared, view.readEach]
    rfl
  | drain => rfl
  | shutdown =>
    simp only [Host.performOnManager, hshared, view.shutdown]
    cases m.shutdown h.shared <;> rfl
  | drop =>
    simp only [Host.performOnManager, hshared, view.shutdown]
    cases m.shutdown h.shared <;> rfl

/-- An action has the same reply and comes to the same host. -/
theorem perform (view : View f) (h : Host τ) (a : Action) :
    (h.map f).perform a = ((h.perform a).1, (h.perform a).2.map f) := by
  have hshared : (h.map f).shared = h.shared.map f := rfl
  have hsession : (h.map f).shared.session = h.shared.session.map f := rfl
  cases a with
  | connect =>
    simp only [Host.perform, hsession, view.session_connect]
    rfl
  | disconnect =>
    simp only [Host.perform, hsession, view.session_disconnect]
    rfl
  | acquire notify wantName =>
    simp only [Host.perform, hsession, view.session_acquire]
    rfl
  | release =>
    simp only [Host.perform, hsession, view.session_release]
    rfl
  | receive =>
    simp only [Host.perform, hsession, view.session_receive]
    rfl
  | drawSequence count =>
    simp only [Host.perform, hsession, drawNumbers]
    rfl
  | discover version =>
    simp only [Host.perform, hsession, view.discover]
    rfl
  | probe version =>
    simp only [Host.perform, hsession, view.probe]
    rfl
  | create version =>
    simp only [Host.perform, hshared, view.create]
    cases (Device.create h.shared version).1 <;> rfl
  | drop place =>
    simp only [Host.perform, device?_map, hshared]
    cases h.device? (.own place) with
    | none => rfl
    | some d =>
      simp only [view.close]
      cases d.close h.shared <;> rfl
  | device target action =>
    simp only [Host.perform, device?_map]
    cases h.device? target with
    | none => rfl
    | some d => exact view.performOnDevice h target d action
  | manage settings => rfl
  | manager k action =>
    have hmanager : (h.map f).manager? k = h.manager? k := rfl
    simp only [Host.perform, hmanager]
    cases h.manager? k with
    | none => cases action <;> rfl
    | some m => exact view.performOnManager h k m action

/-- A run has the same replies and comes to the same host. -/
theorem run (view : View f) (h : Host τ) (acts : List Action) :
    (h.map f).run acts = ((h.run acts).1, (h.run acts).2.map f) := by
  induction acts generalizing h with
  | nil => rfl
  | cons a rest ih => simp only [Host.run, view.perform, ih]

end Transport.View

end RemotePad
