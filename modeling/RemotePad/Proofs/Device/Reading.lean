import Mathlib.Algebra.Ring.Nat
import RemotePad.Device
import RemotePad.Proofs.Tracker.Run
import RemotePad.Transport.Scripted

/-!
# Reading is tracking the accepted reports

An acquired device takes one item from its transport with each read and hands on the
samples of those reports that carry the bound id.  Everything else that may arrive is
passed over.

* `reportedSample` is what an item is worth under a bound id, `Device.takeIn` what a
  device makes of samples; `takeIn_append` puts two lots of samples together.
* `read_eq_takeIn`: one read over any transport.  `readTimes_eq_takeIn`: any number of
  reads in a row are as many receptions, and what came in is taken in.
* `readTimes_tracks_reports`: the same for a peer with an inbox, field by field, with
  the notification and with the items that are passed over left out of the inbox.
-/

namespace RemotePad

open Wire

/-! ## Receiving in a row -/

section Transports

variable {τ : Type} [Transport τ]

/-- Receives several times in a row. -/
def Transport.receiveTimes : Nat → τ → List (Except TransportError Payload) × τ
  | 0, t => ([], t)
  | n + 1, t =>
    let first := Transport.receive t
    let others := receiveTimes n first.2
    (first.1 :: others.1, others.2)

/-- Reads several times in a row. -/
def Device.readTimes : Nat → Device → Shared τ →
    List (Except DeviceError (List InputEvent)) × Device × Shared τ
  | 0, d, s => ([], d, s)
  | n + 1, d, s =>
    let first := d.read s
    let others := readTimes n first.2.1 first.2.2
    (first.1 :: others.1, others.2)

end Transports

/-! ## What a device makes of samples -/

/-- The sample of a received item, if the item is a state report of the pad with the
given id. -/
def reportedSample (id : GamepadId) : Except TransportError Payload → Option Sample
  | .error _ => none
  | .ok payload =>
    match StateReport.decode payload.bytes with
    | .error _ => none
    | .ok report => if report.id = id.value then some report.sample else none

/-- Samples as a device interprets them. -/
def Device.observations (d : Device) (samples : List Sample) : List Observation :=
  d.layout.observations d.calibrations samples

/-- Another state of the transport. -/
def Shared.withLink {τ : Type} (s : Shared τ) (link : τ) : Shared τ :=
  { s with session := { s.session with link := link } }

/-- The flags after events were announced through a handle. -/
def SignalTable.announce (t : SignalTable) (w : Option WaitHandle) (events : List InputEvent) :
    SignalTable :=
  if events.isEmpty then t else t.raise? w

/-- Tracks samples with the numbers of the session and announces the events. -/
def Device.takeIn {τ : Type} (d : Device) (samples : List Sample) (s : Shared τ) :
    List InputEvent × Device × Shared τ :=
  let tracked :=
    Tracker.applyAll countUp (d.observations samples) d.tracker s.session.sequence
  (tracked.2.1, { d with tracker := tracked.1 },
    { session := { s.session with sequence := tracked.2.2 }
      signals := s.signals.announce d.notify tracked.2.1 })

/-- Announcing two lots of events is announcing one after the other. -/
theorem SignalTable.announce_append (t : SignalTable) (w : Option WaitHandle)
    (es fs : List InputEvent) :
    t.announce w (es ++ fs) = (t.announce w es).announce w fs := by
  have htwice : (t.raise? w).raise? w = t.raise? w := by
    cases w with
    | none => rfl
    | some h => simp [raise?, raise]
  cases es with
  | nil => rfl
  | cons e es =>
    cases fs with
    | nil => rw [List.append_nil]; rfl
    | cons f fs => exact htwice.symm

/-- The registered handle is up after an announcement if it was up before or if there
was something to announce. -/
theorem SignalTable.flag_announce {t : SignalTable} {h : WaitHandle}
    (hin : h.index < t.flags.length) (events : List InputEvent) :
    (t.announce (some h) events).flags[h.index]? = some true ↔
      t.flags[h.index]? = some true ∨ events ≠ [] := by
  cases events with
  | nil => simp [announce]
  | cons e rest => simp [announce, raise?, raise, hin]

/-- Taking in more samples goes on where the first ones ended. -/
theorem Device.takeIn_append {τ : Type} (d : Device) (xs ys : List Sample) (s : Shared τ) :
    d.takeIn (xs ++ ys) s =
      (let first := d.takeIn xs s
       let others := first.2.1.takeIn ys first.2.2
       (first.1 ++ others.1, others.2)) := by
  simp only [takeIn, observations, Layout.observations_append, Tracker.applyAll_append,
    SignalTable.announce_append]

theorem Shared.withLink_withLink {τ : Type} (s : Shared τ) (link link' : τ) :
    (s.withLink link).withLink link' = s.withLink link' := rfl

/-- Samples are taken in without the transport. -/
theorem Device.takeIn_withLink {τ : Type} (d : Device) (xs : List Sample) (s : Shared τ)
    (link : τ) :
    d.takeIn xs (s.withLink link) =
      (let taken := d.takeIn xs s
       (taken.1, taken.2.1, taken.2.2.withLink link)) := rfl

/-! ## Reads -/

section Reads

variable {τ : Type} [Transport τ]

/-- One read of an acquired device receives one item and takes in what it reports. -/
theorem Device.read_eq_takeIn (d : Device) (s : Shared τ) (b : Binding)
    (acquired : d.lifecycle = .acquired) (opened : s.session.isOpen = true)
    (bound : s.session.binding = some b) :
    d.read s =
      (let received := Transport.receive s.session.link
       let taken := d.takeIn (reportedSample b.id received.1).toList (s.withLink received.2)
       (.ok taken.1, taken.2)) := by
  obtain ⟨⟨link, binding, sequence⟩, signals⟩ := s
  obtain rfl : binding = some b := bound
  simp only [read, acquired, opened, ne_eq, not_true_eq_false, if_false, Bool.not_true,
    Bool.false_eq_true, Session.receive, reportedSample]
  cases (Transport.receive link).1 with
  | error e => rfl
  | ok payload =>
    simp only
    cases StateReport.decode payload.bytes with
    | error e => rfl
    | ok report =>
      simp only [accept, Session.boundId, Option.map_some, Option.some.injEq]
      by_cases hid : report.id = b.id.value
      · simp only [hid, if_true, Option.toList_some, Tracker.apply_nextSequence, takeIn,
          observations, Layout.observations, List.map_cons, List.map_nil, Tracker.applyAll,
          List.append_nil]
        rfl
      · have hid' : ¬ b.id.value = report.id := fun h => hid h.symm
        simp only [hid, hid', if_false]
        rfl

/-- Reading in a row receives as often and takes in what the items report. -/
theorem Device.readTimes_eq_takeIn [LawfulTransport τ] (b : Binding) (k : Nat) (d : Device)
    (s : Shared τ) (acquired : d.lifecycle = .acquired) (opened : s.session.isOpen = true)
    (bound : s.session.binding = some b) :
    let received := Transport.receiveTimes k s.session.link
    let taken := d.takeIn (received.1.filterMap (reportedSample b.id)) (s.withLink received.2)
    ∃ batches : List (List InputEvent), (d.readTimes k s).1 = batches.map .ok ∧
      batches.length = k ∧ batches.flatten = taken.1 ∧ (d.readTimes k s).2 = taken.2 := by
  induction k generalizing d s with
  | zero => exact ⟨[], rfl, rfl, rfl, rfl⟩
  | succ k ih =>
    have hread := d.read_eq_takeIn s b acquired opened bound
    simp only at hread
    generalize hitem : Transport.receive s.session.link = received at hread
    obtain ⟨item, link⟩ := received
    -- what one read leaves is again an acquired device over an open, bound session
    have hopen : Transport.isOpen link = true := by
      have h := LawfulTransport.isOpen_receive s.session.link
      rw [hitem] at h
      exact h.trans opened
    generalize hfirst : d.takeIn (reportedSample b.id item).toList (s.withLink link) = first
      at hread
    have hd : first.2.1.lifecycle = .acquired := by rw [← hfirst]; exact acquired
    have hlink : first.2.2.session.link = link := by rw [← hfirst]; rfl
    have hbound : first.2.2.session.binding = some b := by rw [← hfirst]; exact bound
    obtain ⟨batches, hanswers, hlength, hevents, hstate⟩ :=
      ih first.2.1 first.2.2 hd (by rw [Session.isOpen, hlink]; exact hopen) hbound
    rw [hlink] at hevents hstate
    have hsplit : ∀ items : List (Except TransportError Payload),
        (item :: items).filterMap (reportedSample b.id) =
          (reportedSample b.id item).toList ++ items.filterMap (reportedSample b.id) := by
      intro items
      cases h : reportedSample b.id item <;> simp [h]
    refine ⟨first.1 :: batches, ?_, ?_, ?_, ?_⟩
    · simp only [readTimes, hread, hanswers, List.map_cons]
    · rw [List.length_cons, hlength]
    · simp only [Transport.receiveTimes, hitem, hsplit, takeIn_append, List.flatten_cons, hevents,
        ← hfirst, takeIn_withLink, Shared.withLink_withLink]
    · simp only [readTimes, hread]
      rw [hstate]
      simp only [Transport.receiveTimes, hitem, hsplit, takeIn_append, ← hfirst, takeIn_withLink,
        Shared.withLink_withLink]

end Reads

/-! ## Reading an inbox -/

/-- Receiving from an open peer takes the inbox from the front; an empty one times out. -/
theorem ScriptedPeer.receiveTimes_eq (k : Nat) (p : ScriptedPeer) (opened : p.open? = true) :
    Transport.receiveTimes k p =
      (p.inbox.take k ++ List.replicate (k - p.inbox.length) (.error .timeout),
        { p with inbox := p.inbox.drop k }) := by
  induction k generalizing p with
  | zero => simp [Transport.receiveTimes]
  | succ k ih =>
    obtain ⟨o, openings, inbox, sent, openFault, sendFault⟩ := p
    obtain rfl : o = true := opened
    cases inbox with
    | nil =>
      have hreceive : Transport.receive
          (⟨true, openings, [], sent, openFault, sendFault⟩ : ScriptedPeer) =
          (.error .timeout, ⟨true, openings, [], sent, openFault, sendFault⟩) := rfl
      rw [Transport.receiveTimes, hreceive, ih _ rfl]
      simp [List.replicate_succ]
    | cons item rest =>
      have hreceive : Transport.receive
          (⟨true, openings, item :: rest, sent, openFault, sendFault⟩ : ScriptedPeer) =
          (item, ⟨true, openings, rest, sent, openFault, sendFault⟩) := rfl
      rw [Transport.receiveTimes, hreceive, ih _ rfl]
      simp

/-- Reading in a row from an open peer takes in what the front of the inbox reports. -/
theorem Device.readTimes_scripted (b : Binding) (k : Nat) (d : Device) (s : Shared ScriptedPeer)
    (acquired : d.lifecycle = .acquired) (opened : s.session.link.open? = true)
    (bound : s.session.binding = some b) :
    let taken := d.takeIn ((s.session.link.inbox.take k).filterMap (reportedSample b.id))
      (s.withLink { s.session.link with inbox := s.session.link.inbox.drop k })
    ∃ batches : List (List InputEvent), (d.readTimes k s).1 = batches.map .ok ∧
      batches.length = k ∧ batches.flatten = taken.1 ∧ (d.readTimes k s).2 = taken.2 := by
  have h := d.readTimes_eq_takeIn b k s acquired opened bound
  have htimeouts : (List.replicate (k - s.session.link.inbox.length)
      (.error .timeout : Except TransportError Payload)).filterMap (reportedSample b.id) = [] := by
    simp [List.filterMap_replicate, reportedSample]
  simpa only [ScriptedPeer.receiveTimes_eq k _ opened, List.filterMap_append, htimeouts,
    List.append_nil] using h

/-- Of a filtered list, the items that were kept among the first `k`. -/
theorem take_countP_filter {α : Type} (p : α → Bool) (xs : List α) (k : Nat) :
    (xs.filter p).take ((xs.take k).countP p) = (xs.take k).filter p := by
  have hsplit : (xs.take k).filter p ++ (xs.drop k).filter p = xs.filter p := by
    rw [← List.filter_append, List.take_append_drop]
  rw [← hsplit, List.countP_eq_length_filter, List.take_left]

/-- Items that report nothing can be left out. -/
theorem filterMap_filter_isSome {α β : Type} (f : α → Option β) (xs : List α) :
    (xs.filter fun x => (f x).isSome).filterMap f = xs.filterMap f := by
  induction xs with
  | nil => rfl
  | cons x rest ih => cases h : f x <;> simp [h, ih]

/-- What the tracker of a device makes of received items, with numbers from `n` on: the
reports of the pad with the given id are applied in order. -/
def Device.trackItems (d : Device) (id : GamepadId) (items : List (Except TransportError Payload))
    (n : UInt64) : Tracker × List InputEvent × UInt64 :=
  Tracker.applyAll countUp (d.observations (items.filterMap (reportedSample id))) d.tracker n

/-- What `k` reads of the device `d` in a row come to over the session and the flags `s`,
when the pad of `b` is bound. -/
structure ReadsTrackReports (d : Device) (s : Shared ScriptedPeer) (b : Binding) (k : Nat) :
    Prop where
  /-- No read fails.  The batches of events are together what the tracker makes of the
  items that were read, and the registered handle is raised by a batch that is not empty
  and by nothing else. -/
  answers : ∃ batches : List (List InputEvent),
    let tracked := d.trackItems b.id (s.session.link.inbox.take k) s.session.sequence
    (d.readTimes k s).1 = batches.map .ok ∧ batches.length = k ∧
    batches.flatten = tracked.2.1 ∧ (batches.map List.length).sum = tracked.2.1.length ∧
    ∀ w, d.notify = some w → w.index < s.signals.flags.length →
      ((d.readTimes k s).2.2.signals.flags[w.index]? = some true ↔
        s.signals.flags[w.index]? = some true ∨ ∃ batch ∈ batches, batch ≠ [])
  /-- Of the device, only the tracker has changed. -/
  device : (d.readTimes k s).2.1 =
    { d with tracker :=
        (d.trackItems b.id (s.session.link.inbox.take k) s.session.sequence).1 }
  /-- Of the session, only the inbox and the numbering have changed: each read took one
  item while there was one. -/
  session : (d.readTimes k s).2.2.session =
    { s.session with
      link := { s.session.link with inbox := s.session.link.inbox.drop k }
      sequence := (d.trackItems b.id (s.session.link.inbox.take k) s.session.sequence).2.2 }
  /-- Without the items that report nothing, the events and the device are the same. -/
  cleaned : ∃ batches : List (List InputEvent),
    let kept := fun item => (reportedSample b.id item).isSome
    let reads := d.readTimes ((s.session.link.inbox.take k).countP kept)
      (s.withLink { s.session.link with inbox := s.session.link.inbox.filter kept })
    reads.1 = batches.map .ok ∧
    batches.flatten = (d.trackItems b.id (s.session.link.inbox.take k) s.session.sequence).2.1 ∧
    reads.2.1 = (d.readTimes k s).2.1

/-- Reading an open inbox in a row with an acquired device is tracking the reports of the
bound pad. -/
theorem readTimes_tracks_reports (d : Device) (s : Shared ScriptedPeer) (b : Binding) (k : Nat)
    (acquired : d.lifecycle = .acquired) (opened : s.session.link.open? = true)
    (bound : s.session.binding = some b) : ReadsTrackReports d s b k := by
  obtain ⟨batches, hanswers, hlength, hevents, hstate⟩ :=
    Device.readTimes_scripted b k d s acquired opened bound
  refine ⟨⟨batches, hanswers, hlength, hevents, ?sum, ?raised⟩, ?device, ?session, ?cleaned⟩
  case sum =>
    rw [← List.length_flatten, hevents]
    rfl
  case raised =>
    intro w hw hin
    have hsome : (∃ batch ∈ batches, batch ≠ []) ↔ batches.flatten ≠ [] := by
      simp [List.flatten_eq_nil_iff]
    rw [hsome, hevents, hstate]
    have h := SignalTable.flag_announce hin
      (d.trackItems b.id (s.session.link.inbox.take k) s.session.sequence).2.1
    rw [← hw] at h
    exact h
  case device => exact congrArg Prod.fst hstate
  case session => exact congrArg (fun r => r.2.session) hstate
  case cleaned =>
    let kept := fun item => (reportedSample b.id item).isSome
    obtain ⟨batches', hanswers', _, hevents', hstate'⟩ :=
      Device.readTimes_scripted b ((s.session.link.inbox.take k).countP kept) d
        (s.withLink { s.session.link with inbox := s.session.link.inbox.filter kept })
        acquired opened bound
    have hitems : ((s.session.link.inbox.filter kept).take
        ((s.session.link.inbox.take k).countP kept)).filterMap (reportedSample b.id) =
        (s.session.link.inbox.take k).filterMap (reportedSample b.id) := by
      rw [take_countP_filter, filterMap_filter_isSome]
    simp only [Shared.withLink, hitems] at hevents' hstate'
    exact ⟨batches', hanswers', hevents',
      (congrArg Prod.fst hstate').trans (congrArg Prod.fst hstate).symm⟩

/-- An inbox with a report of another pad, an error, half a report and a report of the
bound pad: the last one alone counts. -/
theorem readTimes_tracks_mixed_inbox :
    let d : Device :=
      { id := "gamepad:7", identity := .gamepad "Pad7" 0x0800, layout := .extended
        calibrations := Device.defaultCalibrations .extended, lifecycle := .acquired
        gate := none, notify := some ⟨0⟩ }
    let b : Binding := ⟨⟨7, by decide⟩, ⟨0x0a⟩, none⟩
    let report := fun id => (StateReport.encode { id := id, sample := { lx := 100 } }).bytes
    let inbox : List (Except TransportError Payload) :=
      [.ok (.ofBytes (report 8)), .error (.io "reset"), .ok (.ofBytes ((report 7).take 12)),
        .ok (.ofBytes (report 7))]
    let s : Shared ScriptedPeer :=
      { session := { link := { open? := true, inbox := inbox }, binding := some b }
        signals := ⟨[false]⟩ }
    d.lifecycle = .acquired ∧ s.session.link.open? = true ∧ s.session.binding = some b ∧
      (d.trackItems b.id inbox 0).2.1.length = 1 ∧ ReadsTrackReports d s b 4 := by
  intro d b report inbox s
  exact ⟨rfl, rfl, rfl, by decide, readTimes_tracks_reports d s b 4 rfl rfl rfl⟩

end RemotePad
