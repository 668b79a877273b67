import RemotePad.Proofs.Host.Lifelong
import RemotePad.Proofs.Layout.Visits
import RemotePad.Transport.Scripted

/-!
# The calibrations of a device

A device has a table of calibrations beside the object table of its layout, and refers to both by
the same indices.

* `Layout.First`: the first object that a filter selects, which is what `Layout.find` finds.
* `Layout.Fits`: a table with an entry for each object, and with a calibration for each axis.  The
  calibrations of a device fit its layout (`Device.Arises.fits`).
* `setCalibration_of_axis`, `setCalibration_of_no_axis`: the outcomes of a calibration.
* `acquire_of_error`, `acquire_of_same_layout`, `acquire_of_other_layout`: an acquisition that
  fails changes nothing, and one that succeeds keeps calibrations and tracker under the old layout
  and leaves neither under another.
* `calibrations_follow_layout`: all of this for the devices of a session.
-/

namespace RemotePad

/-! ## The first object that a filter selects -/

/-- An object that the filter is after, before which it is after none. -/
structure Layout.First (l : Layout) (filter : ObjectFilter) (index : Nat)
    (o : ObjectDescriptor) : Prop where
  row : l.objects[index]? = some o
  selected : filter.Chooses o
  earlier : ∀ i < index, ∀ o', l.objects[i]? = some o' → ¬ filter.Chooses o'

theorem Layout.find_eq_some_iff {l : Layout} {filter : ObjectFilter} {index : Nat}
    {o : ObjectDescriptor} : l.find filter = some (index, o) ↔ l.First filter index o := by
  have hrows : l.find filter = some (index, o) ↔
      (l.rows.find? fun row => filter.matches row.1) = some (o, index) := by
    unfold find
    constructor
    · intro h
      obtain ⟨row, hrow, hpair⟩ := Option.map_eq_some_iff.mp h
      cases hpair
      exact hrow
    · intro h
      rw [h]
      rfl
  -- A row holds its own index, so the row that was found tells where it stands.
  rw [hrows, List.find?_eq_some_iff_getElem]
  simp only [rows, List.getElem_zipIdx, List.length_zipIdx, Prod.mk.injEq, Nat.zero_add]
  constructor
  · rintro ⟨selected, i, hi, ⟨ho, rfl⟩, earlier⟩
    refine ⟨ho ▸ List.getElem?_eq_getElem hi, (filter.matches_iff o).mp selected,
      fun j hj o' ho' => ?_⟩
    obtain ⟨_, rfl⟩ := List.getElem?_eq_some_iff.mp ho'
    rw [← filter.matches_iff]
    simpa using earlier j hj
  · rintro ⟨row, selected, earlier⟩
    obtain ⟨hi, ho⟩ := List.getElem?_eq_some_iff.mp row
    refine ⟨(filter.matches_iff o).mpr selected, index, hi, ⟨ho, rfl⟩, fun j hj => ?_⟩
    have passed := earlier j hj _ (List.getElem?_eq_getElem (Nat.lt_trans hj hi))
    rw [← filter.matches_iff] at passed
    simpa using passed

/-! ## Tables that fit a layout -/

/-- The table goes with a layout: it has an entry for each object, and a calibration for each
object that is an axis. -/
structure Layout.Fits (l : Layout) (table : CalibrationTable) : Prop where
  length_eq : table.length = l.objects.length
  isSome_iff : ∀ i : Nat, table[i]?.join.isSome = true ↔
    ∃ o : ObjectDescriptor, l.objects[i]? = some o ∧ o.id.kind = .axis

namespace Device

/-- Nobody's calibration of an axis is the default, and nothing else has one. -/
theorem getElem?_defaultCalibrations (l : Layout) (i : Nat) :
    (defaultCalibrations l)[i]? = l.objects[i]?.map fun o =>
      if o.id.kind = .axis then some Calibration.axisDefault else none :=
  List.getElem?_map

theorem fits_default (l : Layout) : l.Fits (defaultCalibrations l) where
  length_eq := List.length_map _
  isSome_iff := fun i => by
    rw [getElem?_defaultCalibrations]
    cases l.objects[i]? with
    | none => simp
    | some o => by_cases axis : o.id.kind = .axis <;> simp [axis]

end Device

/-- A calibration of an axis leaves a table that fits. -/
theorem Layout.Fits.set {l : Layout} {table : CalibrationTable} (fits : l.Fits table) {index : Nat}
    {o : ObjectDescriptor} (row : l.objects[index]? = some o) (axis : o.id.kind = .axis)
    (c : Calibration) : l.Fits (table.set index (some c)) where
  length_eq := (List.length_set).trans fits.length_eq
  isSome_iff := fun i => by
    by_cases same : index = i
    · subst same
      have hlt : index < table.length := by
        rw [fits.length_eq]
        exact (List.getElem?_eq_some_iff.mp row).1
      rw [List.getElem?_set_self hlt]
      exact iff_of_true rfl ⟨o, row, axis⟩
    · rw [List.getElem?_set_ne same]
      exact fits.isSome_iff i

/-- The calibrations of a device fit its layout. -/
theorem Device.Arises.fits {l : Layout} {table : CalibrationTable} {t : Tracker}
    (arises : Arises l table t) : l.Fits table := by
  induction arises with
  | anew => exact fits_default _
  | observed _ _ ih => exact ih
  | calibrated _ first axis c ih => exact ih.set (Layout.find_eq_some_iff.mp first).row axis c

/-! ## Calibrating -/

namespace Device

theorem setCalibration_of_axis {d : Device} {filter : ObjectFilter} {index : Nat}
    {o : ObjectDescriptor} (first : d.layout.First filter index o) (axis : o.id.kind = .axis)
    (c : Calibration) : d.setCalibration filter c =
      (.ok (), { d with calibrations := d.calibrations.set index (some c) }) := by
  simp only [setCalibration, Layout.find_eq_some_iff.mpr first, axis, if_true]

theorem setCalibration_of_no_axis {d : Device} {filter : ObjectFilter}
    (other : ∀ index o, d.layout.First filter index o → o.id.kind ≠ .axis) (c : Calibration) :
    d.setCalibration filter c = (.error .objectNotFound, d) := by
  unfold setCalibration
  split
  · next index o hfind => rw [if_neg (other index o (Layout.find_eq_some_iff.mp hfind))]
  · rfl

/-- A calibration is taken exactly when the first object that the filter selects is an axis. -/
theorem setCalibration_ok_iff {d : Device} {filter : ObjectFilter} {c : Calibration} :
    (d.setCalibration filter c).1 = .ok () ↔
      ∃ index o, d.layout.First filter index o ∧ o.id.kind = .axis := by
  by_cases h : ∃ index o, d.layout.First filter index o ∧ o.id.kind = .axis
  · obtain ⟨index, o, first, axis⟩ := h
    rw [setCalibration_of_axis first axis]
    exact iff_of_true rfl ⟨index, o, first, axis⟩
  · have other : ∀ index o, d.layout.First filter index o → o.id.kind ≠ .axis :=
      fun index o first axis => h ⟨index, o, first, axis⟩
    rw [setCalibration_of_no_axis other]
    exact iff_of_false nofun h

/-! ## Acquiring -/

variable {τ : Type} [Transport τ]

/-- An answer to a request for reports binds its pad. -/
theorem binding_of_granted {s : Session τ} {b : Binding} (granted : s.granted? = some b) :
    (requestInput s).2.binding = some b := by
  -- A transport that is closed and stays closed carries no answer.
  have asked : (s.isOpen || s.opens) = true := by
    refine Classical.byContradiction fun h => ?_
    obtain ⟨closed, refused⟩ := Bool.or_eq_false_iff.mp (Bool.eq_false_iff.mpr h)
    rw [Session.granted?_of_refused closed refused] at granted
    cases granted
  rw [binding_requestInput, if_pos asked, granted]

/-- An acquisition leaves a device as it is that is not bound, or that nobody answers.  A bound
device that is answered adopts the layout of the pad that is bound then. -/
theorem acquire_answered (d : Device) (s : Shared τ) :
    (d.lifecycle ≠ .bound ∧ (d.acquire s).2.1 = d) ∨
    ((d.acquire s).1 = .error .notFound ∧ (d.acquire s).2.1 = d) ∨
    (d.lifecycle = .bound ∧ ∃ b, (d.acquire s).1 = .ok () ∧
      (d.acquire s).2.2.session.binding = some b ∧
      (d.acquire s).2.1 = { d.adopt b.layout with lifecycle := .acquired }) := by
  by_cases bound : d.lifecycle = .bound
  · cases hasked : (requestInput s.session).1 with
    | error e =>
      rw [acquire_of_missed bound hasked]
      exact .inr (.inl ⟨rfl, rfl⟩)
    | ok b =>
      rw [acquire_of_found bound hasked]
      refine .inr (.inr ⟨bound, b, rfl, binding_of_granted ?_, rfl⟩)
      rw [Session.granted?, hasked]
      rfl
  · rcases d.acquire_granted s with ⟨b, granted, _⟩ | ⟨_, hdevice⟩
    · rw [granted?, if_neg bound] at granted
      cases granted
    · exact .inl ⟨bound, hdevice⟩

/-- An acquisition that fails changes nothing of the device. -/
theorem acquire_of_error {d : Device} {s : Shared τ} {e : DeviceError}
    (failed : (d.acquire s).1 = .error e) : (d.acquire s).2.1 = d := by
  rcases d.acquire_answered s with ⟨_, hdevice⟩ | ⟨_, hdevice⟩ | ⟨_, _, ok, _⟩
  · exact hdevice
  · exact hdevice
  · rw [failed] at ok
    cases ok

/-- A bound device is acquired under the layout of the pad that is bound then. -/
theorem layout_acquire {d : Device} {s : Shared τ} (bound : d.lifecycle = .bound)
    (ok : (d.acquire s).1 = .ok ()) :
    ∃ b, (d.acquire s).2.2.session.binding = some b ∧ (d.acquire s).2.1.layout = b.layout := by
  rcases d.acquire_answered s with ⟨other, _⟩ | ⟨failed, _⟩ | ⟨_, b, _, hbinding, hdevice⟩
  · exact absurd bound other
  · rw [ok] at failed
    cases failed
  · refine ⟨b, hbinding, ?_⟩
    rw [hdevice]
    exact d.layout_adopt b.layout

/-- Under the old layout calibrations and tracker are kept. -/
theorem acquire_of_same_layout {d : Device} {s : Shared τ}
    (same : (d.acquire s).2.1.layout = d.layout) :
    (d.acquire s).2.1 = { d with lifecycle := (d.acquire s).2.1.lifecycle } := by
  rcases d.acquire_answered s with ⟨_, hdevice⟩ | ⟨_, hdevice⟩ | ⟨_, b, _, _, hdevice⟩
  · rw [hdevice]
  · rw [hdevice]
  · have hlayout : b.layout = d.layout := by
      rw [hdevice] at same
      exact (d.layout_adopt b.layout).symm.trans same
    rw [hdevice, adopt, if_pos hlayout]

/-- Under another layout nothing is left of them. -/
theorem acquire_of_other_layout {d : Device} {s : Shared τ}
    (other : (d.acquire s).2.1.layout ≠ d.layout) :
    (d.acquire s).2.1.calibrations = defaultCalibrations (d.acquire s).2.1.layout ∧
      (d.acquire s).2.1.tracker = {} := by
  rcases d.acquire_answered s with ⟨_, hdevice⟩ | ⟨_, hdevice⟩ | ⟨_, b, _, _, hdevice⟩
  · exact absurd (congrArg layout hdevice) other
  · exact absurd (congrArg layout hdevice) other
  · have hlayout : b.layout ≠ d.layout := by
      rw [hdevice] at other
      exact fun h => other ((d.layout_adopt b.layout).trans h)
    rw [hdevice, adopt, if_neg hlayout]
    exact ⟨rfl, rfl⟩

end Device

/-! ## Sessions -/

/-- Whatever was done with a session, and whatever its server answered, of each of its devices:
the calibrations fit the layout.  A calibration is taken exactly when the first object that its
filter selects is an axis, and then it is the new entry of that axis and the only change; when it
is not taken nothing changes.  An acquisition that fails changes nothing of the device, one under
the old layout keeps calibrations and tracker, and one under another layout leaves the default
calibrations and a tracker that has seen nothing. -/
theorem calibrations_follow_layout {τ : Type} [Transport τ] (link : τ) (acts : List Action)
    {place : DeviceRef} {d : Device}
    (placed : ((Host.fresh link).run acts).2.device? place = some d) :
    d.calibrations.length = d.layout.objects.length ∧
    (∀ i, (d.calibration i).isSome = true ↔
      ∃ o, d.layout.objects[i]? = some o ∧ o.id.kind = .axis) ∧
    (∀ filter c,
      let h := ((Host.fresh link).run acts).2
      let r := h.perform (.device place (.setCalibration filter c))
      ((d.setCalibration filter c).1 = .ok () ↔
        ∃ index o, d.layout.First filter index o ∧ o.id.kind = .axis) ∧
      (∀ index o, d.layout.First filter index o → o.id.kind = .axis →
        index < d.calibrations.length ∧
        r = (.device (.ok ()), h.setDevice
          { d with calibrations := d.calibrations.set index (some c) } place)) ∧
      ((∀ index o, d.layout.First filter index o → o.id.kind ≠ .axis) →
        r = (.device (.error .objectNotFound), h))) ∧
    (∀ s : Shared τ,
      let r := d.acquire s
      (∀ e, r.1 = .error e → r.2.1 = d) ∧
      (d.lifecycle = .bound → r.1 = .ok () →
        ∃ b, r.2.2.session.binding = some b ∧ r.2.1.layout = b.layout) ∧
      (r.1 = .ok () → r.2.1.layout = d.layout →
        r.2.1.calibrations = d.calibrations ∧ r.2.1.tracker = d.tracker) ∧
      (r.1 = .ok () → r.2.1.layout ≠ d.layout →
        (∀ i : Nat, r.2.1.calibrations[i]? = r.2.1.layout.objects[i]?.map fun o =>
          if o.id.kind = .axis then some Calibration.axisDefault else none) ∧
        r.2.1.tracker = {})) := by
  have fits := (Host.arises_run link acts placed).fits
  refine ⟨fits.length_eq, fits.isSome_iff, fun filter c => ?_, fun s => ?_⟩
  · refine ⟨Device.setCalibration_ok_iff, fun index o first axis => ⟨?_, ?_⟩, fun other => ?_⟩
    · rw [fits.length_eq]
      exact (List.getElem?_eq_some_iff.mp first.row).1
    · simp only [Host.perform, placed, Host.performOnDevice,
        Device.setCalibration_of_axis first axis]
    · simp only [Host.perform, placed, Host.performOnDevice,
        Device.setCalibration_of_no_axis other, Host.setDevice_self placed]
  · refine ⟨fun e => Device.acquire_of_error, Device.layout_acquire, fun _ same => ?_,
      fun _ other => ?_⟩
    · rw [Device.acquire_of_same_layout same]
      exact ⟨rfl, rfl⟩
    · obtain ⟨hcalibrations, htracker⟩ := Device.acquire_of_other_layout other
      exact ⟨fun i => hcalibrations ▸ Device.getElem?_defaultCalibrations _ i, htracker⟩

/-- A device whose last axis is calibrated and which then missed its pad: it keeps that
calibration, takes none for a button, and loses it to a pad of the other layout. -/
theorem calibrations_follow_layout_across_pads :
    let pad := fun bits => Wire.Payload.ofBytes (Wire.GamepadResponse.encode ⟨7, ⟨bits⟩⟩ none).bytes
    let link : ScriptedPeer := { inbox := [.ok (pad 0x0a), .error .timeout, .ok (pad 0x09)] }
    let dull : Calibration := { Calibration.axisDefault with deadzone := 2000 }
    let acts : List Action :=
      [.create 0x0800, .device (.own 0) (.setCalibration (.id (.axis 4)) dull),
        .device (.own 0) .acquire]
    let h := ((Host.fresh link).run acts).2
    ∃ d, h.device? (.own 0) = some d ∧ d.calibrations.length = 16 ∧ d.calibration 4 = some dull ∧
      h.perform (.device (.own 0) (.setCalibration (.id (.button 0)) dull)) =
        (.device (.error .objectNotFound), h) ∧
      (d.acquire h.shared).1 = .ok () ∧
      (d.acquire h.shared).2.1.calibrations[3]? = some (some .axisDefault) ∧
      (d.acquire h.shared).2.1.calibrations[4]? = some none := by
  intro pad link dull acts h
  obtain ⟨d, placed⟩ : ∃ d, h.device? (.own 0) = some d :=
    Option.isSome_iff_exists.mp (by decide +kernel)
  have hview : (h.device? (.own 0)).map (fun d => (d.layout, d.calibration 4,
      (d.acquire h.shared).1.toBool, (d.acquire h.shared).2.1.layout)) =
        some (.extended, some dull, true, .standard) := by
    decide +kernel
  rw [placed] at hview
  simp only [Option.map_some, Option.some.injEq, Prod.mk.injEq] at hview
  obtain ⟨hlayout, hdull, htaken, hnew⟩ := hview
  obtain ⟨hlength, _, hset, hacquire⟩ := calibrations_follow_layout link acts placed
  have ok : (d.acquire h.shared).1 = .ok () := by
    cases hresult : (d.acquire h.shared).1 with
    | ok _ => rfl
    | error e =>
      rw [hresult] at htaken
      cases htaken
  obtain ⟨hentries, _⟩ := (hacquire h.shared).2.2.2 ok (by rw [hnew, hlayout]; decide)
  rw [hnew] at hentries
  refine ⟨d, placed, by rw [hlength, hlayout]; rfl, hdull, (hset _ dull).2.2 ?_, ok, hentries 3,
    hentries 4⟩
  intro index o first axis
  have hid : o.id = .button 0 := by
    rcases first.selected with h | h | h
    · cases h
    · cases h
    · exact (ObjectFilter.id.inj h).symm
  rw [hid] at axis
  cases axis

end RemotePad
