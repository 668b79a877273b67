import RemotePad.Proofs.Host.Lifelong
import RemotePad.Proofs.Tracker.Cells
import RemotePad.Transport.Scripted

/-!
# What a device shows

The mask of the last sample and the joystick record of a device go together, under whichever
layout it has: it keeps both or forgets both when it is acquired.

* `Tracker.Faithful.isPressed`, `Tracker.Faithful.button_cases` and what follows them: a faithful
  record in terms of bits, cells and axes.
* `Device.Arises.faithful`: the record of a device is faithful.
* `device_shows_mask`: what that says of the devices of a session.
-/

namespace RemotePad

/-! ## Bits and slots -/

theorem Layout.mem_buttonBits_iff {l : Layout} {bit : UInt8} :
    bit ∈ l.buttonBits ↔ bit < l.buttonCount := by
  rw [buttonBits, List.mem_map]
  constructor
  · rintro ⟨n, hn, rfl⟩
    have hlt : n < l.buttonCount.toNat := List.mem_range.mp hn
    rw [UInt8.lt_iff_toNat_lt, UInt8.toNat_ofNat_of_lt' (Nat.lt_trans hlt l.buttonCount.toNat_lt)]
    exact hlt
  · exact fun below => ⟨bit.toNat, List.mem_range.mpr below, UInt8.ofNat_toNat⟩

/-- The list of slots has the button of a bit in the place of the bit. -/
theorem Layout.mem_zipIdx_slots {l : Layout} {slot bit : UInt8} (below : bit < l.buttonCount)
    (hslot : l.buttonSlot bit = some slot) : (slot, bit.toNat) ∈ l.slots.zipIdx := by
  rw [zipIdx_slots, List.mem_filterMap]
  exact ⟨bit, mem_buttonBits_iff.mpr below, by rw [hslot, Option.map_some]⟩

/-- Every bit that a layout looks at stands for a button. -/
theorem Layout.buttonSlot_of_lt {l : Layout} {bit : UInt8} (below : bit < l.buttonCount) :
    ∃ slot, l.buttonSlot bit = some slot := by
  have hlt : bit.toNat < l.buttonCount.toNat := below
  cases l with
  | standard => exact ⟨_, List.getElem?_eq_getElem hlt⟩
  | extended => exact ⟨bit, if_pos below⟩

/-- A slot of a layout is the button of one of the bits. -/
theorem Layout.exists_bit_of_mem_slots {l : Layout} {slot : UInt8} (h : slot ∈ l.slots) :
    ∃ bit < l.buttonCount, l.buttonSlot bit = some slot := by
  obtain ⟨i, hi, hget⟩ := List.mem_iff_getElem.mp h
  have hentry : (slot, i) ∈ l.slots.zipIdx :=
    List.mk_mem_zipIdx_iff_getElem?.mpr (hget ▸ List.getElem?_eq_getElem hi)
  rw [zipIdx_slots, List.mem_filterMap] at hentry
  obtain ⟨bit, hbit, hpair⟩ := hentry
  obtain ⟨slot', hslot, hsame⟩ := Option.map_eq_some_iff.mp hpair
  obtain rfl : slot' = slot := congrArg Prod.fst hsame
  exact ⟨bit, mem_buttonBits_iff.mp hbit, hslot⟩

/-! ## What a faithful record shows -/

namespace JoyState

theorem toNat_ofNat_cell (n : Fin 32) : (UInt8.ofNat n).toNat = n := by
  rw [UInt8.toNat_ofNat']
  exact Nat.mod_eq_of_lt (by omega)

/-- The cell of a button has the byte of what it shows. -/
theorem Shows.button_cell {j : JoyState} {n : Fin 32} {v : Int32}
    (shows : j.Shows v (.button (UInt8.ofNat n))) : j.buttons.get n = buttonByte v := by
  have hcell : j.buttons[(UInt8.ofNat n).toNat]? = some (buttonByte v) := shows
  rw [toNat_ofNat_cell, Vector.getElem?_eq_getElem n.isLt] at hcell
  exact Option.some.inj hcell

end JoyState

namespace Tracker.Faithful

variable {l : Layout} {t : Tracker}

/-- A button is pressed when its bit is set. -/
theorem isPressed (faithful : t.Faithful l) {bit slot : UInt8} (below : bit < l.buttonCount)
    (hslot : l.buttonSlot bit = some slot) :
    t.joy.isPressed slot.toNat = t.last.buttons.toNat.testBit bit.toNat := by
  have hcell : t.joy.buttons[slot.toNat]? = some _ :=
    faithful.slots slot bit.toNat (Layout.mem_zipIdx_slots below hslot)
  rw [JoyState.isPressed, hcell]
  cases t.last.buttons.toNat.testBit bit.toNat <;> rfl

/-- A cell without a button is at rest. -/
theorem spare_cell (faithful : t.Faithful l) {n : Fin 32} (spare : UInt8.ofNat n ∉ l.slots) :
    t.joy.buttons.get n = 0 := by
  refine (faithful.spare (UInt8.ofNat n) spare ?_).button_cell
  rw [JoyState.toNat_ofNat_cell]
  exact n.isLt

/-- A button cell is at rest or has its highest bit, and no other. -/
theorem button_cases (faithful : t.Faithful l) (n : Fin 32) :
    t.joy.buttons.get n = 0 ∨ t.joy.buttons.get n = 0x80 := by
  by_cases slot : UInt8.ofNat n ∈ l.slots
  · obtain ⟨bit, below, hslot⟩ := Layout.exists_bit_of_mem_slots slot
    have hcell := (faithful.slots _ _ (Layout.mem_zipIdx_slots below hslot)).button_cell
    split at hcell
    · exact .inr hcell
    · exact .inl hcell
  · exact .inl (faithful.spare_cell slot)

end Tracker.Faithful

/-! ## Devices -/

/-- The record of a device is faithful under its layout: it starts anew with each layout. -/
theorem Device.Arises.faithful {l : Layout} {table : CalibrationTable} {t : Tracker}
    (arises : Arises l table t) : t.Faithful l := by
  -- Only a fresh tracker comes with a new layout, so no cell is left over from another one.
  induction arises with
  | anew => exact Tracker.faithful_fresh _
  | observed _ _ ih => exact ih.observe
  | calibrated _ _ _ _ ih => exact ih

/-- Whatever was done with a session, and whatever its server answered, of each of its devices:
a button is pressed exactly when its bit of the last mask is set, a button cell is at rest or
`0x80`, and cells without a button, axes without a row and the other directions are at rest. -/
theorem device_shows_mask {τ : Type} [Transport τ] (link : τ) (acts : List Action)
    {place : DeviceRef} {d : Device}
    (placed : ((Host.fresh link).run acts).2.device? place = some d) :
    (∀ bit < d.layout.buttonCount, ∃ slot, d.layout.buttonSlot bit = some slot ∧
      (d.tracker.joy.isPressed slot.toNat = true ↔
        d.tracker.last.buttons.toNat.testBit bit.toNat = true)) ∧
    (∀ n : Fin 32, d.tracker.joy.buttons.get n = 0 ∨ d.tracker.joy.buttons.get n = 0x80) ∧
    (∀ n : Fin 32,
      (∀ bit < d.layout.buttonCount, ∀ slot, d.layout.buttonSlot bit = some slot →
        slot.toNat ≠ n) → d.tracker.joy.buttons.get n = 0) ∧
    (∀ a, (∀ o ∈ d.layout.objects, o.axis ≠ some a) → d.tracker.joy.axes.get a.slot = 0) ∧
    (∀ i : Fin 4, i ≠ 0 → d.tracker.joy.pov.get i = -1) := by
  have faithful := (Host.arises_run link acts placed).faithful
  refine ⟨fun bit below => ?_, faithful.button_cases, fun n spare => ?_, faithful.undriven,
    faithful.directions⟩
  · obtain ⟨slot, hslot⟩ := Layout.buttonSlot_of_lt below
    exact ⟨slot, hslot, by rw [faithful.isPressed below hslot]⟩
  · refine faithful.spare_cell fun hslot => ?_
    obtain ⟨bit, below, hbit⟩ := Layout.exists_bit_of_mem_slots hslot
    exact spare bit below _ hbit (JoyState.toNat_ofNat_cell n)

/-- Buttons held under the extended layout, and others under the standard layout of the pad that
was acquired after it. -/
theorem device_shows_mask_across_layouts :
    let pad := fun bits => (Wire.GamepadResponse.encode ⟨7, ⟨bits⟩⟩ none).bytes
    let report := fun sample => (Wire.StateReport.encode { id := 7, sample := sample }).bytes
    let inbox := [pad 0x0a, pad 0x0a, report { buttons := 0x0202, lz := 9 }, pad 0x09,
      report { buttons := 0x0003, rx := 5 }]
    let link : ScriptedPeer := { inbox := inbox.map fun bytes => .ok (.ofBytes bytes) }
    let acts : List Action :=
      [.create 0x0800, .device (.own 0) .acquire, .device (.own 0) .read,
        .device (.own 0) .unacquire, .device (.own 0) .acquire, .device (.own 0) .read]
    ∃ d, ((Host.fresh link).run acts).2.device? (.own 0) = some d ∧
      d.layout = .standard ∧ d.tracker.last.buttons = 0x0003 ∧
      d.tracker.joy.isPressed 1 = true ∧ d.tracker.joy.isPressed 2 = true ∧
      d.tracker.joy.isPressed 9 ≠ true ∧ d.tracker.joy.axes.get (AxisType.slot .rx) = 0 := by
  intro pad report inbox link acts
  obtain ⟨d, placed⟩ : ∃ d, ((Host.fresh link).run acts).2.device? (.own 0) = some d :=
    Option.isSome_iff_exists.mp (by decide +kernel)
  have hview : (((Host.fresh link).run acts).2.device? (.own 0)).map
      (fun d => (d.layout, d.tracker.last.buttons)) = some (.standard, 0x0003) := by
    decide +kernel
  rw [placed] at hview
  obtain ⟨hlayout, hmask⟩ := Prod.mk.inj (Option.some.inj hview)
  obtain ⟨hbits, _, _, haxes, _⟩ := device_shows_mask link acts placed
  have hpressed : ∀ bit < Layout.standard.buttonCount, ∀ slot,
      Layout.standard.buttonSlot bit = some slot →
      (d.tracker.joy.isPressed slot.toNat = true ↔ (0x0003 : Nat).testBit bit.toNat = true) := by
    intro bit below slot hslot
    obtain ⟨slot', hslot', hiff⟩ := hbits bit (hlayout ▸ below)
    rw [hlayout, hslot] at hslot'
    cases hslot'
    rwa [hmask] at hiff
  refine ⟨d, placed, hlayout, hmask, (hpressed 0 (by decide) 1 rfl).mpr (by decide),
    (hpressed 1 (by decide) 2 rfl).mpr (by decide),
    fun h => absurd ((hpressed 7 (by decide) 9 rfl).mp h) (by decide), haxes .rx ?_⟩
  rw [hlayout]
  decide

end RemotePad
