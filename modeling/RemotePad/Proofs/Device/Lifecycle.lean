import RemotePad.Proofs.Session.Live
import RemotePad.Proofs.Tracker.Run

/-!
# What the operations of a device do

For each operation of a device, all that it can come to: the device afterwards, and what
has become of the session and of the flags that it shares with others.

* `acquire_cases`, `unacquire_cases`, `close_cases`, `read_cases`: the outcomes, and
  `read_keeps` and `read_frame` for what a read leaves alone.
* `Device.GateStands`: a device that is not closed has a gate in the table of flags, and
  the gate of an acquired device is up.  Then `unacquire` and `close` return
  (`unacquire_of_gateStands`, `close_of_gateStands`).
* `SignalTable.GrowsTo`: flags are added and raised, none is lowered.  Whatever grows the
  table leaves a standing gate standing.
-/

namespace RemotePad

/-! ## Flags that are only raised -/

/-- No flag is gone, and each flag that was up is up. -/
structure SignalTable.GrowsTo (t t' : SignalTable) : Prop where
  length_le : t.flags.length ≤ t'.flags.length
  isSet : ∀ h, t.isSet h = true → t'.isSet h = true

namespace SignalTable

theorem growsTo_refl (t : SignalTable) : t.GrowsTo t := ⟨Nat.le_refl _, fun _ h => h⟩

theorem growsTo_raise? (t : SignalTable) (w : Option WaitHandle) : t.GrowsTo (t.raise? w) := by
  cases w with
  | none => exact t.growsTo_refl
  | some h =>
    refine ⟨by simp [raise?, raise], fun k hk => ?_⟩
    rw [raise?, isSet_raise, hk, Bool.true_or]

end SignalTable

namespace Device

/-! ## Gates -/

/-- A device that is not closed has a gate, and the gate of an acquired device is up. -/
structure GateStands (d : Device) (signals : SignalTable) : Prop where
  present : d.lifecycle ≠ .closed → d.gate.isSome = true
  inTable : ∀ g, d.gate = some g → g.index < signals.flags.length
  raised : d.lifecycle = .acquired → ∀ g, d.gate = some g → signals.isSet g = true

/-- Whatever becomes of the other flags does not matter. -/
theorem GateStands.kept {d : Device} {t t' : SignalTable} (h : d.GateStands t)
    (hlen : t.flags.length ≤ t'.flags.length)
    (hup : ∀ g, d.gate = some g → t.isSet g = true → t'.isSet g = true) : d.GateStands t' where
  present := h.present
  inTable := fun g hg => Nat.lt_of_lt_of_le (h.inTable g hg) hlen
  raised := fun hd g hg => hup g hg (h.raised hd g hg)

theorem GateStands.grow {d : Device} {t t' : SignalTable} (h : d.GateStands t)
    (hgrow : t.GrowsTo t') : d.GateStands t' :=
  h.kept hgrow.length_le fun g _ => hgrow.isSet g

/-- Only the gate and the stage of life of a device matter for its gate. -/
theorem GateStands.congr {d d' : Device} {t : SignalTable} (h : d.GateStands t)
    (hgate : d'.gate = d.gate) (hlife : d'.lifecycle = d.lifecycle) : d'.GateStands t where
  present := by
    rw [hgate, hlife]
    exact h.present
  inTable := by
    rw [hgate]
    exact h.inTable
  raised := by
    rw [hgate, hlife]
    exact h.raised

/-- A device whose gate was raised may become acquired. -/
theorem GateStands.raise {d d' : Device} {t : SignalTable} (h : d.GateStands t)
    (hlife : d.lifecycle ≠ .closed) (hgate : d'.gate = d.gate) :
    d'.GateStands (t.raise? d.gate) where
  present := fun _ => by
    rw [hgate]
    exact h.present hlife
  inTable := by
    rw [hgate]
    exact (h.grow (t.growsTo_raise? d.gate)).inTable
  raised := fun _ g hg => by
    rw [hgate] at hg
    rw [hg, SignalTable.raise?, SignalTable.isSet_raise]
    simp [h.inTable g hg]

/-- Nobody waits long at a standing gate. -/
theorem GateStands.passGate {d : Device} {signals : SignalTable} (h : d.GateStands signals)
    (acquired : d.lifecycle = .acquired) : d.passGate signals = some () := by
  unfold Device.passGate
  cases hg : d.gate with
  | none => rfl
  | some g => simp [SignalTable.wait?, h.raised acquired g hg]

/-! ## Outcomes of the operations -/

variable {τ : Type} [Transport τ]

/-- A device is created for the pad that a discovery found, with the newest handle for
its gate. -/
theorem create_of_found [LawfulTransport τ] {s : Shared τ} {version : UInt32}
    {i : DeviceInstance} (found : (discover s.session version).1 = .ok i) :
    ∃ b, (discover s.session version).2.isOpen = true ∧
      (discover s.session version).2.binding = some b ∧
      create s version =
        (.ok
          { id := "gamepad:" ++ b.id.text, identity := i, layout := b.layout
            calibrations := defaultCalibrations b.layout, gate := some s.signals.fresh.1 },
          ⟨(discover s.session version).2, s.signals.fresh.2⟩) := by
  obtain ⟨hopen, b, hbinding⟩ := live_discover found
  refine ⟨b, hopen, hbinding, ?_⟩
  unfold create
  simp only [found, hbinding]

theorem create_of_missed {s : Shared τ} {version : UInt32} {e : DeviceError}
    (missed : (discover s.session version).1 = .error e) :
    create s version = (.error e, { s with session := (discover s.session version).2 }) := by
  unfold create
  simp only [missed]

theorem session_create (s : Shared τ) (version : UInt32) :
    (create s version).2.session = (discover s.session version).2 := by
  unfold create
  simp only
  split <;> rfl

theorem lifecycle_create {s : Shared τ} {version : UInt32} {d : Device}
    (made : (create s version).1 = .ok d) : d.lifecycle = .bound := by
  unfold create at made
  simp only at made
  split at made
  · cases made
    rfl
  · cases made
  · cases made

/-- To the session, a creation is a discovery. -/
theorem create_discover [LawfulTransport τ] (s : Shared τ) (version : UInt32) :
    (create s version).2.session = (discover s.session version).2 ∧
      (create s version).1.toBool = (discover s.session version).1.toBool := by
  refine ⟨session_create s version, ?_⟩
  cases hfound : (discover s.session version).1 with
  | error e =>
    rw [create_of_missed hfound]
    rfl
  | ok i =>
    obtain ⟨b, _, _, hcreate⟩ := create_of_found hfound
    rw [hcreate]
    rfl

theorem layout_adopt (d : Device) (l : Layout) : (d.adopt l).layout = l := by
  unfold adopt
  split
  · next h => exact h.symm
  · rfl

theorem gate_adopt (d : Device) (l : Layout) : (d.adopt l).gate = d.gate := by
  unfold adopt
  split <;> rfl

theorem acquire_of_found {d : Device} {s : Shared τ} {b : Binding} (hd : d.lifecycle = .bound)
    (found : (requestInput s.session).1 = .ok b) :
    d.acquire s =
      (.ok (), { d.adopt b.layout with lifecycle := .acquired },
        ⟨(requestInput s.session).2, s.signals.raise? d.gate⟩) := by
  simp only [acquire, hd, found]

theorem acquire_of_missed {d : Device} {s : Shared τ} {e : DeviceError}
    (hd : d.lifecycle = .bound) (missed : (requestInput s.session).1 = .error e) :
    d.acquire s =
      (.error .notFound, d, ⟨(requestInput s.session).2, s.signals.raise? d.gate⟩) := by
  simp only [acquire, hd, missed]

/-- An acquisition does nothing to a device that is not bound.  A bound device becomes
acquired under the layout of the pad that was found; when none was found it stays as it
is, and either there is no binding or a closed transport could not be opened. -/
theorem acquire_cases [LawfulTransport τ] (d : Device) (s : Shared τ) :
    let r := d.acquire s
    (d.lifecycle ≠ .bound ∧ r.2 = (d, s)) ∨
    (d.lifecycle = .bound ∧ ∃ b, r.1 = .ok () ∧
      r.2.1 = { d.adopt b.layout with lifecycle := .acquired } ∧
      r.2.2.session.isOpen = true ∧ r.2.2.session.binding = some b ∧
      r.2.2.signals = s.signals.raise? d.gate) ∨
    (d.lifecycle = .bound ∧ r.1 = .error .notFound ∧ r.2.1 = d ∧
      (r.2.2.session.binding = none ∨
        (s.session.isOpen = false ∧ r.2.2.session.isOpen = false ∧
          r.2.2.session.binding = s.session.binding)) ∧
      r.2.2.signals = s.signals.raise? d.gate) := by
  by_cases hd : d.lifecycle = .bound
  · rcases requestInput_cases s.session with
      ⟨b, found, hopen, hbinding⟩ | ⟨e, missed, hnone⟩ | ⟨e, missed, hclosed, hstill, hsame⟩
    · rw [acquire_of_found hd found]
      exact Or.inr (Or.inl ⟨hd, b, rfl, rfl, hopen, hbinding, rfl⟩)
    · rw [acquire_of_missed hd missed]
      exact Or.inr (Or.inr ⟨hd, rfl, rfl, Or.inl hnone, rfl⟩)
    · rw [acquire_of_missed hd missed]
      exact Or.inr (Or.inr ⟨hd, rfl, rfl, Or.inr ⟨hclosed, hstill, hsame⟩, rfl⟩)
  · refine Or.inl ⟨hd, ?_⟩
    cases hl : d.lifecycle with
    | closed => simp only [acquire, hl]
    | bound => exact absurd hl hd
    | acquired => simp only [acquire, hl]

/-- Giving back either waits forever, or does nothing to a device that is not acquired, or
makes an acquired one bound and leaves a released and closed session. -/
theorem unacquire_cases (d : Device) (s : Shared τ) :
    d.unacquire s = none ∨
    (d.lifecycle ≠ .acquired ∧ d.unacquire s = some (d, s)) ∨
    (d.lifecycle = .acquired ∧ d.unacquire s =
      some ({ d with lifecycle := .bound }, ⟨s.session.release.disconnect, s.signals⟩)) := by
  unfold unacquire
  by_cases hd : d.lifecycle = .acquired
  · rw [if_pos hd]
    cases d.passGate s.signals with
    | none => exact Or.inl rfl
    | some _ => exact Or.inr (Or.inr ⟨hd, rfl⟩)
  · rw [if_neg hd]
    exact Or.inr (Or.inl ⟨hd, rfl⟩)

theorem unacquire_of_gateStands {d : Device} {s : Shared τ} (h : d.GateStands s.signals)
    (acquired : d.lifecycle = .acquired) :
    d.unacquire s =
      some ({ d with lifecycle := .bound }, ⟨s.session.release.disconnect, s.signals⟩) := by
  rw [unacquire, if_pos acquired, h.passGate acquired]
  rfl

/-- A device after it was closed. -/
def shut (d : Device) : Device :=
  { d with gate := none, notify := none, lifecycle := .closed }

/-- Closing either waits forever, or does nothing to a closed device, or shuts a device,
with its pad given back first if it was acquired. -/
theorem close_cases (d : Device) (s : Shared τ) :
    d.close s = none ∨
    (d.lifecycle = .closed ∧ d.close s = some (d, s)) ∨
    (d.lifecycle = .bound ∧ d.close s = some (d.shut, s)) ∨
    (d.lifecycle = .acquired ∧
      d.close s = some (d.shut, ⟨s.session.release.disconnect, s.signals⟩)) := by
  unfold close
  cases hd : d.lifecycle with
  | closed => exact Or.inr (Or.inl ⟨rfl, rfl⟩)
  | bound =>
    rcases d.unacquire_cases s with h | ⟨_, h⟩ | ⟨ha, _⟩
    · exact Or.inl (by rw [h]; rfl)
    · exact Or.inr (Or.inr (Or.inl ⟨rfl, by rw [h]; rfl⟩))
    · rw [hd] at ha
      cases ha
  | acquired =>
    rcases d.unacquire_cases s with h | ⟨hn, _⟩ | ⟨_, h⟩
    · exact Or.inl (by rw [h]; rfl)
    · exact absurd hd hn
    · exact Or.inr (Or.inr (Or.inr ⟨rfl, by rw [h]; rfl⟩))

theorem close_of_gateStands {d : Device} {s : Shared τ} (h : d.GateStands s.signals)
    (acquired : d.lifecycle = .acquired) :
    d.close s = some (d.shut, ⟨s.session.release.disconnect, s.signals⟩) := by
  have hopen : d.lifecycle ≠ .closed := by rw [acquired]; decide
  rw [close, if_neg hopen, unacquire_of_gateStands h acquired]
  rfl

/-- Calibrating changes the calibrations and nothing else. -/
theorem setCalibration_frame (d : Device) (filter : ObjectFilter) (c : Calibration) :
    ∃ cs, (d.setCalibration filter c).2 = { d with calibrations := cs } := by
  unfold setCalibration
  split
  · split
    · exact ⟨_, rfl⟩
    · exact ⟨_, rfl⟩
  · exact ⟨_, rfl⟩

omit [Transport τ] in
/-- Taking in a report changes the tracker, the numbering and the flags, and nothing else. -/
theorem accept_frame (d : Device) (report : Wire.StateReport) (s : Shared τ) :
    let r := d.accept report s
    (∃ t, r.2.1 = { d with tracker := t }) ∧
    r.2.2.session = { s.session with sequence := r.2.2.session.sequence } ∧
    s.signals.GrowsTo r.2.2.signals := by
  unfold accept
  split
  · simp only [Tracker.apply_nextSequence]
    refine ⟨⟨_, rfl⟩, trivial, ?_⟩
    split
    · exact s.signals.growsTo_refl
    · exact s.signals.growsTo_raise? d.notify
  · exact ⟨⟨_, rfl⟩, rfl, s.signals.growsTo_refl⟩

/-- A device that is not acquired does not read.  An acquired one takes in the report that
comes in, and when none does, at most a datagram is gone. -/
theorem read_cases (d : Device) (s : Shared τ) :
    (d.lifecycle ≠ .acquired ∧ d.read s = (.error .notAcquired, d, s)) ∨
    (d.lifecycle = .acquired ∧ s.session.incoming? = none ∧
      ∃ s', (s' = s.session ∨ s' = s.session.receive.2) ∧
        d.read s = (.ok [], d, { s with session := s' })) ∨
    (d.lifecycle = .acquired ∧ ∃ report, s.session.incoming? = some report ∧
      d.read s =
        (let accepted := d.accept report { s with session := s.session.receive.2 }
         (.ok accepted.1, accepted.2))) := by
  by_cases acquired : d.lifecycle = .acquired
  · refine Or.inr ?_
    simp only [read, Session.incoming?, acquired, ne_eq, not_true_eq_false, if_false, true_and]
    cases s.session.isOpen with
    | false => exact Or.inl ⟨rfl, s.session, Or.inl rfl, rfl⟩
    | true =>
      simp only [Bool.not_true, Bool.false_eq_true, if_false, if_true]
      cases s.session.receive.1 with
      | error e => exact Or.inl ⟨rfl, _, Or.inr rfl, rfl⟩
      | ok payload =>
        simp only
        cases Wire.StateReport.decode payload.bytes with
        | error e => exact Or.inl ⟨rfl, _, Or.inr rfl, rfl⟩
        | ok report => exact Or.inr ⟨report, rfl, rfl⟩
  · exact Or.inl ⟨acquired, by rw [read, if_pos acquired]⟩

/-- Reading changes the tracker of the device, leaves the binding alone and lowers no flag. -/
theorem read_keeps (d : Device) (s : Shared τ) :
    let r := d.read s
    (∃ t, r.2.1 = { d with tracker := t }) ∧ r.2.2.session.binding = s.session.binding ∧
    s.signals.GrowsTo r.2.2.signals := by
  rcases d.read_cases s with ⟨_, hread⟩ | ⟨_, _, s', rfl | rfl, hread⟩ | ⟨_, report, _, hread⟩
  · rw [hread]
    exact ⟨⟨_, rfl⟩, rfl, s.signals.growsTo_refl⟩
  · rw [hread]
    exact ⟨⟨_, rfl⟩, rfl, s.signals.growsTo_refl⟩
  · rw [hread]
    exact ⟨⟨_, rfl⟩, rfl, s.signals.growsTo_refl⟩
  · obtain ⟨hdevice, hsession, hsignals⟩ :=
      d.accept_frame report { s with session := s.session.receive.2 }
    rw [hread]
    refine ⟨hdevice, ?_, hsignals⟩
    rw [hsession]
    rfl

theorem isOpen_read [LawfulTransport τ] (d : Device) (s : Shared τ) :
    (d.read s).2.2.session.isOpen = s.session.isOpen := by
  have hreceive := s.session.isOpen_receive
  rcases d.read_cases s with ⟨_, hread⟩ | ⟨_, _, s', rfl | rfl, hread⟩ | ⟨_, report, _, hread⟩
  · rw [hread]
  · rw [hread]
  · rw [hread]
    exact hreceive
  · rw [hread, (d.accept_frame report { s with session := s.session.receive.2 }).2.1]
    exact hreceive

/-- Reading changes the tracker of the device, the state of the transport, the numbering
and the flags, and nothing else. -/
theorem read_frame [LawfulTransport τ] (d : Device) (s : Shared τ) :
    let r := d.read s
    (∃ t, r.2.1 = { d with tracker := t }) ∧
    r.2.2.session.isOpen = s.session.isOpen ∧ r.2.2.session.binding = s.session.binding ∧
    s.signals.GrowsTo r.2.2.signals := by
  obtain ⟨hdevice, hbinding, hsignals⟩ := d.read_keeps s
  exact ⟨hdevice, d.isOpen_read s, hbinding, hsignals⟩

end Device

end RemotePad
