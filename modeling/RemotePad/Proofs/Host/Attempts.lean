import RemotePad.Proofs.Host.Happenings
import RemotePad.Proofs.Session.Acquire
import RemotePad.Proofs.Session.Numbering

/-!
# Attempts to acquire a device

An acquisition can fail before, while and after the request goes out.  Whichever it is, the device
is left as it was, so that the next attempt depends on the device and on the server alone, and not
on the attempts before.

* `Session.Serves` and `Session.Denies`: a request for reports is answered with a pad, or it fails
  in one of four ways.  It is always one of the two (`serves_or_denies`).
* `requestInput_of_serves`, `requestInput_of_denies`: what comes of the request.
* `Host.Missed` and `Host.Granted`: what an acquisition comes to, and `perform_acquire_of_denies`
  and `perform_acquire_of_serves` that it does.
* `Host.attempts`: one attempt after the other, with the peer doing what it likes in between.
* `failed_acquire_leaves_device`: any number of them, on any device at any time.
-/

namespace RemotePad

open Wire

variable {τ : Type} [Transport τ]

/-! ## Requests for reports -/

namespace Session

/-- The session over which a request goes out. -/
def ready (s : Session τ) : Session τ :=
  if s.isOpen then s else s.connect.2

/-- A request for reports is answered with a pad. -/
structure Serves (s : Session τ) (p : Payload) : Prop where
  opens : s.isOpen = false → s.opens = true
  sends : (Transport.send s.ready.link (getGamepadRequest true)).1 = .ok ()
  answers : (Transport.receive (Transport.send s.ready.link (getGamepadRequest true)).2).1 = .ok p
  acceptable : p.Acceptable false

/-- A request for reports fails. -/
inductive Denies (s : Session τ) : Prop where
  /-- The transport is closed and does not open. -/
  | unopened (closed : s.isOpen = false) (refused : s.opens = false)
  /-- The request cannot be sent. -/
  | unsent {e : TransportError} (opens : s.isOpen = false → s.opens = true)
      (fails : (Transport.send s.ready.link (getGamepadRequest true)).1 = .error e)
  /-- Nothing is received. -/
  | unanswered {e : TransportError} (opens : s.isOpen = false → s.opens = true)
      (sends : (Transport.send s.ready.link (getGamepadRequest true)).1 = .ok ())
      (fails : (Transport.receive (Transport.send s.ready.link (getGamepadRequest true)).2).1 =
        .error e)
  /-- What is received tells of no pad. -/
  | refused {p : Payload} (opens : s.isOpen = false → s.opens = true)
      (sends : (Transport.send s.ready.link (getGamepadRequest true)).1 = .ok ())
      (answers : (Transport.receive (Transport.send s.ready.link (getGamepadRequest true)).2).1 =
        .ok p)
      (unacceptable : ¬ p.Acceptable false)

/-- A request for reports is answered with a pad, or it fails. -/
theorem serves_or_denies (s : Session τ) : (∃ p, s.Serves p) ∨ s.Denies := by
  by_cases hopens : s.isOpen = false → s.opens = true
  · cases hsent : (Transport.send s.ready.link (getGamepadRequest true)).1 with
    | error e => exact Or.inr (.unsent hopens hsent)
    | ok _ =>
      cases hanswer :
          (Transport.receive (Transport.send s.ready.link (getGamepadRequest true)).2).1 with
      | error e => exact Or.inr (.unanswered hopens hsent hanswer)
      | ok p =>
        by_cases hacceptable : p.Acceptable false
        · exact Or.inl ⟨p, hopens, hsent, hanswer, hacceptable⟩
        · exact Or.inr (.refused hopens hsent hanswer hacceptable)
  · obtain ⟨hclosed, hrefused⟩ := Classical.not_imp.mp hopens
    exact Or.inr (.unopened hclosed (Bool.eq_false_iff.mpr hrefused))

theorem connect_of_opens {s : Session τ} (opens : s.opens = true) : s.connect.1 = .ok () := by
  rcases s.opens_cases with ⟨_, hconnect⟩ | ⟨hrefused, _⟩
  · exact hconnect
  · rw [opens] at hrefused
    cases hrefused

end Session

namespace Device

/-- Over a transport that is open, or that opens, the request is made. -/
theorem requestInput_of_opens {s : Session τ} (opens : s.isOpen = false → s.opens = true) :
    requestInput s = ((s.ready.acquire true false).1.mapError DeviceError.ofSession,
      (s.ready.acquire true false).2) := by
  unfold requestInput Session.ready
  cases hopen : s.isOpen with
  | true => rfl
  | false =>
    have hconnect := Session.connect_of_opens (opens hopen)
    simp only [Bool.false_eq_true, if_false, hconnect]

/-- A request that is served binds the pad that the answer tells of. -/
theorem requestInput_of_serves {s : Session τ} {p : Payload} (serves : s.Serves p) :
    ∃ b, (requestInput s).1 = .ok b ∧ (requestInput s).2.binding = some b ∧ b.ToldBy p false := by
  obtain ⟨b, hread, htold⟩ := Binding.ofResponse_of_acceptable serves.acceptable
  have hasked := Session.acquire_of_answered serves.sends serves.answers false
  rw [hread] at hasked
  rw [requestInput_of_opens serves.opens, hasked]
  exact ⟨b, rfl, rfl, htold⟩

theorem requestInput_of_denies {s : Session τ} (denies : s.Denies) :
    ∃ e, (requestInput s).1 = .error e := by
  cases denies with
  | unopened closed refused =>
    rcases s.opens_cases with ⟨hopens, _⟩ | ⟨_, e, hconnect⟩
    · rw [refused] at hopens
      cases hopens
    · refine ⟨.ofTransport e, ?_⟩
      simp only [requestInput, closed, Bool.false_eq_true, if_false, hconnect]
  | unsent opens fails =>
    rw [requestInput_of_opens opens, Session.acquire_of_unsent fails]
    exact ⟨_, rfl⟩
  | unanswered opens sends fails =>
    rw [requestInput_of_opens opens, Session.acquire_of_unanswered sends fails]
    exact ⟨_, rfl⟩
  | @refused p opens sends answers unacceptable =>
    cases hread : Binding.ofResponse p false with
    | ok b => exact absurd ((Binding.ofResponse_accepts p false).1.mp ⟨b, hread⟩) unacceptable
    | error e =>
      rw [requestInput_of_opens opens, Session.acquire_of_answered sends answers, hread]
      exact ⟨_, rfl⟩

/-- A request goes out over the session made ready for it, if that is possible. -/
theorem session_requestInput (s : Session τ) :
    (requestInput s).2 =
      if s.isOpen || s.opens then (s.ready.acquire true false).2 else s.connect.2 := by
  by_cases hopens : s.isOpen = false → s.opens = true
  · rw [requestInput_of_opens hopens, if_pos]
    cases hopen : s.isOpen with
    | true => rfl
    | false => exact hopens hopen
  · obtain ⟨hclosed, hrefused⟩ := Classical.not_imp.mp hopens
    obtain ⟨hopens, _⟩ | ⟨hrefused, e, hconnect⟩ := s.opens_cases
    · exact absurd hopens hrefused
    · simp only [requestInput, hclosed, hrefused, Bool.false_eq_true, Bool.or_self, if_false,
        hconnect]

/-- An open transport stays open. -/
theorem isOpen_requestInput [LawfulTransport τ] {s : Session τ} (isOpen : s.isOpen = true) :
    (requestInput s).2.isOpen = true := by
  have hready : s.ready = s := if_pos isOpen
  rw [session_requestInput, isOpen, Bool.true_or, if_pos rfl, hready]
  exact (s.isOpen_acquire true false).trans isOpen

/-- The transport is opened at most once, the request is sent at most once, and at most one
datagram is received. -/
theorem calls_requestInput (s : Session (Tapped τ)) :
    ∃ calls, (requestInput s).2.link.calls = s.link.calls ++ calls ∧
      calls.Sublist [.connect, .send (getGamepadRequest true), .receive] := by
  have hready : s.ready.link.calls = s.link.calls ++ if s.isOpen then [] else [.connect] := by
    unfold Session.ready
    cases s.isOpen with
    | true => exact (List.append_nil _).symm
    | false => rfl
  have hopening : (if s.isOpen then [] else [Tapped.Call.connect]).Sublist [.connect] := by
    split
    · exact List.nil_sublist _
    · exact List.Sublist.refl _
  rw [session_requestInput]
  split
  · have hexchange : ∀ received : Bool,
        (Tapped.Call.send (getGamepadRequest true) :: if received then [.receive] else []).Sublist
          [.send (getGamepadRequest true), .receive] := by
      intro received
      cases received with
      | true => exact List.Sublist.refl _
      | false => exact (List.nil_sublist _).cons_cons _
    exact ⟨_, by rw [Session.calls_acquire, hready, List.append_assoc],
      hopening.append (hexchange _)⟩
  · exact ⟨[.connect], rfl, (List.nil_sublist _).cons_cons _⟩

/-- A scripted peer loses at most the first item of its inbox. -/
theorem inbox_requestInput (s : Session ScriptedPeer) :
    (requestInput s).2.link.inbox = s.link.inbox ∨
      (requestInput s).2.link.inbox = s.link.inbox.drop 1 := by
  have hconnect : s.connect.2.link.inbox = s.link.inbox := by
    simp only [Session.connect, Transport.connect, ScriptedPeer.connect]
    split <;> rfl
  have hready : s.ready.link.inbox = s.link.inbox := by
    unfold Session.ready
    split
    · rfl
    · exact hconnect
  rw [session_requestInput]
  split
  · rw [Session.inbox_acquire, hready]
    split
    · exact Or.inr rfl
    · exact Or.inl rfl
  · exact Or.inl hconnect

end Device

/-! ## Acquisitions -/

/-- The layout that the flags of an answer stand for: the extended one if they say so, or if they
say nothing of a layout. -/
def Wire.Payload.layout (p : Payload) : Layout :=
  if answeredFlags p.bytes &&& 0x02 = 0x02 then .extended
  else if answeredFlags p.bytes &&& 0x01 = 0x01 then .standard
  else .extended

omit [Transport τ] in
theorem Binding.ToldBy.layout_eq {b : Binding} {p : Payload} {wantName : Bool}
    (told : b.ToldBy p wantName) : b.layout = p.layout := by
  rw [Wire.Payload.layout, ← told.flags]
  simp only [Binding.layout, LayoutFlags.layout, LayoutFlags.contains, LayoutFlags.mapperExtended,
    LayoutFlags.mapperStandard, beq_iff_eq]

/-- The device is acquired. -/
def Reply.acquired : Reply → Bool
  | .device (.ok ()) => true
  | _ => false

namespace Host

/-- Devices, managers, the handles that are watched and the count of events are as before. -/
structure Untouched {τ : Type} (h h' : Host τ) : Prop where
  devices : h'.devices = h.devices
  managers : h'.managers = h.managers
  watched : h'.watched = h.watched
  sequence : h'.shared.session.sequence = h.shared.session.sequence

/-- What an acquisition that fails leaves behind. -/
structure Missed (h : Host (Tapped τ)) (target : DeviceRef) (d : Device)
    (r : Reply × Host (Tapped τ)) : Prop where
  reply : r.1 = .device (.error .notFound)
  placed : r.2.device? target = some d
  untouched : h.Untouched r.2
  /-- The gate is up, and no other flag has changed. -/
  gate : ∃ g, d.gate = some g ∧ r.2.shared.signals = h.shared.signals.raise g ∧
    r.2.shared.signals.isSet g = true
  /-- The transport is not closed. -/
  isOpen : h.shared.session.isOpen = true → r.2.shared.session.isOpen = true
  /-- What was done with the transport. -/
  calls : ∃ calls, r.2.shared.session.link.calls = h.shared.session.link.calls ++ calls ∧
    calls.Sublist [.connect, .send (getGamepadRequest true), .receive]

/-- What an acquisition comes to that is answered with a pad. -/
structure Granted {τ : Type} (target : DeviceRef) (d : Device) (p : Payload)
    (r : Reply × Host τ) : Prop where
  reply : r.1 = .device (.ok ())
  placed : ∃ d', r.2.device? target = some d' ∧ d'.lifecycle = .acquired ∧ d'.layout = p.layout ∧
    d' = { d.adopt p.layout with lifecycle := .acquired }
  bound : ∃ b, r.2.shared.session.binding = some b ∧ b.ToldBy p false

namespace Untouched

variable {τ : Type} {h h' h'' : Host τ}

theorem refl (h : Host τ) : h.Untouched h :=
  ⟨rfl, rfl, rfl, rfl⟩

theorem trans (u : h.Untouched h') (u' : h'.Untouched h'') : h.Untouched h'' :=
  ⟨u'.devices.trans u.devices, u'.managers.trans u.managers, u'.watched.trans u.watched,
    u'.sequence.trans u.sequence⟩

theorem device?_eq (u : h.Untouched h') (target : DeviceRef) :
    h'.device? target = h.device? target :=
  device?_of_places u.devices u.managers target

/-- The peer touches nothing of this. -/
theorem mapLink (h : Host τ) (change : τ → τ) : h.Untouched (h.mapLink change) :=
  ⟨rfl, rfl, rfl, rfl⟩

end Untouched

section

variable {h : Host τ} {target : DeviceRef} {d : Device}

theorem perform_acquire_of_denies (placed : h.device? target = some d) (bound : d.lifecycle = .bound)
    (denies : h.shared.session.Denies) :
    h.perform (.device target .acquire) =
      (.device (.error .notFound),
        { h with shared :=
            ⟨(Device.requestInput h.shared.session).2, h.shared.signals.raise? d.gate⟩ }) := by
  obtain ⟨e, missed⟩ := Device.requestInput_of_denies denies
  simp only [perform, placed, performOnDevice, Device.acquire_of_missed bound missed]
  exact congrArg _ (setDevice_self (h := { h with shared := _ }) placed)

theorem perform_acquire_of_serves (placed : h.device? target = some d)
    (bound : d.lifecycle = .bound) {p : Payload} (serves : h.shared.session.Serves p) :
    Granted target d p (h.perform (.device target .acquire)) := by
  obtain ⟨b, found, hbinding, told⟩ := Device.requestInput_of_serves serves
  have hset := device?_setDevice (h := { h with shared :=
    ⟨(Device.requestInput h.shared.session).2, h.shared.signals.raise? d.gate⟩ }) placed
    { d.adopt p.layout with lifecycle := .acquired } target
  rw [if_pos rfl] at hset
  simp only [perform, placed, performOnDevice, Device.acquire_of_found bound found, told.layout_eq]
  refine ⟨rfl, ⟨_, hset, rfl, d.layout_adopt p.layout, rfl⟩, ⟨b, ?_, told⟩⟩
  rw [shared_setDevice]
  exact hbinding

/-- A bound device is acquired when the request is answered with a pad, and otherwise not found. -/
theorem acquired_perform_iff (placed : h.device? target = some d) (bound : d.lifecycle = .bound) :
    ((h.perform (.device target .acquire)).1 = .device (.ok ()) ↔
      ∃ p, h.shared.session.Serves p) ∧
    ((h.perform (.device target .acquire)).1 = .device (.error .notFound) ↔
      h.shared.session.Denies) := by
  have served := fun p (serves : h.shared.session.Serves p) =>
    (perform_acquire_of_serves placed bound serves).reply
  have denied := fun denies : h.shared.session.Denies =>
    congrArg Prod.fst (perform_acquire_of_denies placed bound denies)
  refine ⟨⟨fun hreply => ?_, fun ⟨p, serves⟩ => served p serves⟩, fun hreply => ?_, denied⟩
  · refine h.shared.session.serves_or_denies.resolve_right fun denies => ?_
    rw [denied denies] at hreply
    cases hreply
  · refine h.shared.session.serves_or_denies.resolve_left fun ⟨p, serves⟩ => ?_
    rw [served p serves] at hreply
    cases hreply

end

/-- An acquisition that fails leaves everything but its gate, the binding and the transport. -/
theorem missed_of_denies [LawfulTransport τ] {h : Host (Tapped τ)} {target : DeviceRef} {d : Device}
    (placed : h.device? target = some d) (bound : d.lifecycle = .bound)
    {g : WaitHandle} (gate : d.gate = some g) (rooted : g.index < h.handles)
    (denies : h.shared.session.Denies) :
    h.Missed target d (h.perform (.device target .acquire)) := by
  rw [perform_acquire_of_denies placed bound denies, gate]
  have untouched : h.Untouched { h with shared :=
      ⟨(Device.requestInput h.shared.session).2, h.shared.signals.raise g⟩ } :=
    ⟨rfl, rfl, rfl, Device.sequence_requestInput h.shared.session⟩
  refine ⟨rfl, (untouched.device?_eq target).trans placed, untouched, ⟨g, gate, rfl, ?_⟩,
    Device.isOpen_requestInput, Device.calls_requestInput h.shared.session⟩
  show (h.shared.signals.raise g).isSet g = true
  rw [SignalTable.isSet_raise, Bool.or_eq_true]
  exact Or.inr (decide_eq_true ⟨rfl, rooted⟩)

/-! ## One attempt after the other -/

/-- Attempts to acquire a device, before each of which the peer does something. -/
def attempts (h : Host τ) (target : DeviceRef) : List (τ → τ) → List Reply × Host τ
  | [] => ([], h)
  | change :: rest =>
    let first := (h.mapLink change).perform (.device target .acquire)
    let others := first.2.attempts target rest
    (first.1 :: others.1, others.2)

/-- Attempts are a course like any other. -/
theorem attempts_after (h : Host τ) (target : DeviceRef) (changes : List (τ → τ)) :
    (h.attempts target changes).2 =
      h.after (changes.flatMap fun change => [.peer change, .act (.device target .acquire)]) := by
  induction changes generalizing h with
  | nil => rfl
  | cons change rest ih => exact ih ((h.mapLink change).perform (.device target .acquire)).2

/-- Attempts that fail leave things as they were. -/
theorem untouched_attempts {h : Host τ} {target : DeviceRef} {d : Device}
    (placed : h.device? target = some d) (bound : d.lifecycle = .bound) {changes : List (τ → τ)}
    (failed : ∀ reply ∈ (h.attempts target changes).1, reply.acquired = false) :
    (∀ reply ∈ (h.attempts target changes).1, reply = .device (.error .notFound)) ∧
      h.Untouched (h.attempts target changes).2 := by
  induction changes generalizing h with
  | nil => exact ⟨fun _ hmem => absurd hmem List.not_mem_nil, .refl h⟩
  | cons change rest ih =>
    have hchanged := Untouched.mapLink h change
    have hplaced : (h.mapLink change).device? target = some d :=
      (hchanged.device?_eq target).trans placed
    obtain ⟨hfirst, hothers⟩ := List.forall_mem_cons.mp failed
    have denies : (h.mapLink change).shared.session.Denies := by
      refine (Session.serves_or_denies _).resolve_left fun ⟨p, serves⟩ => ?_
      rw [(perform_acquire_of_serves hplaced bound serves).reply] at hfirst
      cases hfirst
    have hperform := perform_acquire_of_denies hplaced bound denies
    have hattempt : (h.mapLink change).Untouched
        ((h.mapLink change).perform (.device target .acquire)).2 := by
      rw [hperform]
      exact ⟨rfl, rfl, rfl, Device.sequence_requestInput _⟩
    obtain ⟨hreplies, hrest⟩ := ih ((hattempt.device?_eq target).trans hplaced) hothers
    exact ⟨List.forall_mem_cons.mpr ⟨congrArg Prod.fst hperform, hreplies⟩,
      (hchanged.trans hattempt).trans hrest⟩

end Host

/-- At any time, whatever happened to a host and its session before, a bound device may be tried to
be acquired any number of times, with the peer doing what it likes in between.

* As long as the attempts fail, each tells that no device was found, and devices, managers, the
  handles that are watched and the count of events are as before all of them.
* The next attempt is granted exactly when the transport is open or opens, the request is sent and
  an acceptable answer is received.  Then the device ends acquired under the layout of the flags
  that were answered: it has started anew if that is another layout, and it is the same otherwise.
* It fails exactly when one of these does.  Then, too, the device is the same as before.  Its gate is
  up and no other flag has changed, the transport is not closed, at most one datagram, the request,
  is sent, and at most one is received; a scripted peer loses at most one item of its inbox. -/
theorem failed_acquire_leaves_device [LawfulTransport τ] (link : τ)
    (course : List (Happening (Tapped τ))) {h : Host (Tapped τ)}
    (reached : (Host.fresh ⟨link, []⟩).after course = h) {target : DeviceRef} {d : Device}
    (placed : h.device? target = some d) (bound : d.lifecycle = .bound)
    {changes : List (Tapped τ → Tapped τ)} {replies : List Reply} {h' : Host (Tapped τ)}
    (tried : h.attempts target changes = (replies, h'))
    (failed : ∀ reply ∈ replies, reply.acquired = false) :
    let next := h'.perform (.device target .acquire)
    (∀ reply ∈ replies, reply = .device (.error .notFound)) ∧
    h.Untouched h' ∧ h'.device? target = some d ∧
    (next.1 = .device (.ok ()) ↔ ∃ p, h'.shared.session.Serves p) ∧
    (∀ p, h'.shared.session.Serves p → Host.Granted target d p next) ∧
    (next.1 = .device (.error .notFound) ↔ h'.shared.session.Denies) ∧
    (h'.shared.session.Denies → h'.Missed target d next) ∧
    ∀ s : Shared ScriptedPeer, (d.acquire s).2.2.session.link.inbox ∈
      [s.session.link.inbox, s.session.link.inbox.drop 1] := by
  intro next
  obtain rfl : (h.attempts target changes).1 = replies := congrArg Prod.fst tried
  obtain rfl : (h.attempts target changes).2 = h' := congrArg Prod.snd tried
  obtain ⟨hreplies, untouched⟩ := Host.untouched_attempts placed bound failed
  have hplaced := (untouched.device?_eq target).trans placed
  obtain ⟨hserved, hdenied⟩ := Host.acquired_perform_iff hplaced bound
  refine ⟨hreplies, untouched, hplaced, hserved,
    fun p serves => Host.perform_acquire_of_serves hplaced bound serves, hdenied,
    fun denies => ?_, fun s => ?_⟩
  · have has : h.Everywhere fun d => d.gate.isSome = true ↔ d.lifecycle ≠ .closed := by
      rw [← reached]
      exact Host.lifelong_after Device.lifelong_gate (.fresh _) course
    obtain ⟨g, gate⟩ :=
      Option.isSome_iff_exists.mp ((has target d placed).mpr (by rw [bound]; decide))
    have rooted : (h.attempts target changes).2.Rooted := by
      rw [Host.attempts_after, ← reached]
      exact Host.rooted_after (Host.rooted_after (.fresh _) course) _
    exact Host.missed_of_denies hplaced bound gate (rooted target d hplaced g gate) denies
  · rw [Device.session_acquire_of_bound s bound]
    rcases Device.inbox_requestInput s.session with hinbox | hinbox
    · exact List.mem_cons.mpr (Or.inl hinbox)
    · exact List.mem_cons_of_mem _ (List.mem_singleton.mpr hinbox)

/-- The host has lowered the gate and closed the transport.  Then the transport does not open, the
request is not sent, nothing is received, and something is received that tells of no pad.  The fifth
attempt is granted, with a pad of another layout. -/
theorem failed_acquire_leaves_device_four_failures :
    let answer := fun flags => Payload.ofBytes (GamepadResponse.encode ⟨7, ⟨flags⟩⟩ none).bytes
    let link : ScriptedPeer := { inbox := [.ok (answer 0x0a)] }
    let course : List (Happening (Tapped ScriptedPeer)) :=
      [.act (.create 3), .act (.device (.own 0) .notifyOn), .lower ⟨0⟩, .act .disconnect]
    let peer := fun change (t : Tapped ScriptedPeer) => { t with link := change t.link }
    let changes : List (Tapped ScriptedPeer → Tapped ScriptedPeer) :=
      [peer fun p => { p with openFault := some (.setup "bind" "address in use") },
        peer fun p => { p with openFault := none, sendFault := some .timeout },
        peer fun p => { p with sendFault := none },
        peer fun p => { p with inbox := [.ok (.ofBytes [9, 1]), .ok (answer 0x09)] }]
    let h := (Host.fresh ⟨link, []⟩).after course
    let tried := h.attempts (.own 0) changes
    h.stage? (.own 0) = some .bound ∧ tried.1.length = 4 ∧
    (∀ reply ∈ tried.1, reply = .device (.error .notFound)) ∧ h.Untouched tried.2 ∧
    tried.2.shared.session.Serves (answer 0x09) ∧
    ∃ d, h.device? (.own 0) = some d ∧ d.layout ≠ (answer 0x09).layout ∧
      Host.Granted (.own 0) d (answer 0x09)
        (tried.2.perform (.device (.own 0) .acquire)) := by
  intro answer link course peer changes h tried
  have hstage : h.stage? (.own 0) = some .bound := by decide +kernel
  have hfailed : ∀ reply ∈ tried.1, reply.acquired = false := by decide +kernel
  have hacceptable : (answer 0x09).Acceptable false :=
    ((answer 0x09).firstComplaint_eq_none_iff false).mp (by decide +kernel)
  have hserves : tried.2.shared.session.Serves (answer 0x09) :=
    ⟨by decide +kernel, by decide +kernel, by decide +kernel, hacceptable⟩
  have hother : (h.device? (.own 0)).map Device.layout ≠ some (answer 0x09).layout := by
    decide +kernel
  have hfour : tried.1.length = 4 := by decide +kernel
  obtain ⟨d, placed, bound⟩ := Host.stage?_eq_some.mp hstage
  have htried : h.attempts (.own 0) changes = (tried.1, tried.2) := (Prod.eta tried).symm
  obtain ⟨hreplies, untouched, -, -, granted, -, -, -⟩ :=
    failed_acquire_leaves_device link course rfl placed bound htried hfailed
  refine ⟨hstage, hfour, hreplies, untouched, hserves, d, placed, fun same => ?_,
    granted (answer 0x09) hserves⟩
  rw [placed] at hother
  exact hother (congrArg some same)

end RemotePad
