import Mathlib.Data.List.Induction
import RemotePad.Proofs.Host.Grants
import RemotePad.Transport.Scripted

/-!
# Whose reports a device takes in

A device reads the reports of the pad that the session is bound to, and sees them under the
layout of the pad that was last granted to itself.

* `Host.accounted_run`: along every run, the binding is the last pad granted, and the layout
  of an acquired device is that of the last pad granted to it.
* `reads_last_granted`: the pad that a device reads is the one granted last since its own
  acquisition.  If that one has the layout that was granted to the device itself, the device
  sees it under the layout of the binding, whatever was granted in between.
* `reads_foreign_pad`: it may be another pad.
-/

namespace RemotePad

variable {τ : Type} [Transport τ]

namespace Host

/-- A device that reads stands in its place, and finds the binding of the host. -/
theorem placed_of_mem_readings {h : Host τ} {a : Action} {r : Turn τ} (hr : r ∈ h.readings a) :
    h.device? r.place = some r.device ∧
      r.shared.session.binding = h.shared.session.binding := by
  unfold readings at hr
  split at hr
  · obtain ⟨hplace, hdevice, hshared⟩ := mem_turnOf hr
    rw [hplace, hshared]
    exact ⟨hdevice, rfl⟩
  · obtain ⟨m, hm, hr⟩ := mem_turnsOf hr
    obtain ⟨i, hplace, hdevice⟩ := Turn.mem_along hr
    constructor
    · rw [hplace, device?, hm, Nat.zero_add]
      exact hdevice
    · -- the devices before it in the same poll leave the binding alone
      exact Turn.along_invariant (P := fun s => s.session.binding = h.shared.session.binding)
        (fun d s hs => (d.read_keeps s).2.1.trans hs) rfl hr
  · cases hr

/-! ## Along runs -/

/-- The host is bound to the last pad granted, if to any, and an acquired device has the
layout of the last pad granted to it. -/
structure Accounted (h : Host τ) (log : List Grant) : Prop where
  binding : ∀ b, h.shared.session.binding = some b → (log.map Grant.binding).getLast? = some b
  layout : ∀ place d, h.device? place = some d → d.lifecycle = .acquired →
    ∃ own since, LatestTo log place own since ∧ d.layout = own.layout

theorem accounted_run (link : τ) (acts : List Action) :
    ((fresh link).run acts).2.Accounted ((fresh link).history acts) where
  binding := fun b hb => by
    have hfollows : (((fresh link).history acts).map Grant.binding).getLast?.or none = some b :=
      follows_law.run (fresh link) (fun _ _ _ => trivial) b hb
    rwa [Option.or_none] at hfollows
  layout := by
    -- along the run: each action adds its grants, which either are the device's own or leave
    -- the layout that it had
    induction acts using List.reverseRecOn with
    | nil =>
      intro place d found
      cases place <;> simp [run, fresh, device?, manager?] at found
    | append_singleton acts a ih =>
      intro place d found acquired
      rw [run_snoc] at found
      rw [history, chronicle_snoc]
      cases earned_perform found acquired with
      | granted own since latest layout => exact ⟨own, since, latest.before, layout⟩
      | kept old placed held others =>
        obtain ⟨own, since, latest, layout⟩ := ih place old placed held.1
        exact ⟨own, _, latest.after others, held.2.symm.trans layout⟩

end Host

/-- Whatever was done to the session: when a device takes in a report, it is one of the pad that
was granted last since the device was acquired itself, its own grant included.  If nothing was
granted after that, or the same pad under the same layout last, this is the pad and the layout
that the device was granted.  If it has the layout that the device was granted, the report is
seen under the layout of the binding. -/
theorem reads_last_granted (link : τ) (acts : List Action) (a : Action) (r : Turn τ)
    (report : Wire.StateReport) (reads : r ∈ ((Host.fresh link).run acts).2.readings a)
    (applies : r.Applies report) :
    ∃ own since b, LatestTo ((Host.fresh link).history acts) r.place own since ∧
      r.shared.session.binding = some b ∧ b.id.value = report.id ∧
      (own :: since.map Grant.binding).getLast? = some b ∧
      ((∀ g ∈ since.getLast?, g.binding.id = own.id ∧ g.binding.layout = own.layout) →
        b.id = own.id ∧ b.layout = own.layout) ∧
      (b.layout = own.layout →
        (r.device.read r.shared).1 = .ok (r.seen b.layout report).2 ∧
        (r.device.read r.shared).2.1 =
          { r.device with tracker := (r.seen b.layout report).1 }) := by
  obtain ⟨placed, hbinding⟩ := Host.placed_of_mem_readings reads
  have haccounted := Host.accounted_run link acts
  obtain ⟨own, since, latest, hlayout⟩ :=
    haccounted.layout r.place r.device placed applies.acquired
  obtain ⟨id, hid, hvalue⟩ := Option.map_eq_some_iff.mp applies.named
  obtain ⟨b, hb, rfl⟩ := Option.map_eq_some_iff.mp hid
  have hlast : (own :: since.map Grant.binding).getLast? = some b := by
    rw [← latest.getLast?]
    exact haccounted.binding b (hbinding.symm.trans hb)
  refine ⟨own, since, b, latest, hb, hvalue, hlast, fun same => ?agrees, fun layout => ?seen⟩
  case agrees =>
    rw [List.getLast?_cons, List.getLast?_map] at hlast
    cases hsince : since.getLast? with
    | none =>
      rw [hsince] at hlast
      obtain rfl : own = b := Option.some.inj hlast
      exact ⟨rfl, rfl⟩
    | some g =>
      rw [hsince] at hlast
      obtain rfl : g.binding = b := Option.some.inj hlast
      exact same g hsince
  case seen =>
    obtain ⟨hevents, hdevice⟩ := Turn.read_of_applies applies
    rw [hlayout, ← layout] at hevents hdevice
    exact ⟨hevents, hdevice⟩

/-- The first device reads a report after a second one was created for another pad, under another
layout, and was then granted the pad of the first one. -/
theorem reads_last_granted_after_other :
    let pad := fun id bits =>
      Wire.Payload.ofBytes (Wire.GamepadResponse.encode ⟨id, ⟨bits⟩⟩ none).bytes
    let report : Wire.StateReport := { id := 7, sample := { lx := 100 } }
    let link : ScriptedPeer :=
      { inbox := [.ok (pad 7 0x0a), .ok (pad 7 0x0a), .ok (pad 9 0x09), .ok (pad 7 0x0a),
          .ok (.ofBytes report.encode.bytes)] }
    let acts : List Action :=
      [.create 0x0800, .device (.own 0) .acquire, .create 0x0800, .device (.own 1) .acquire]
    ((Host.fresh link).history acts).map (fun g => (g.holder, g.binding.id.value)) =
      [(none, 7), (some (.own 0), 7), (none, 9), (some (.own 1), 7)] ∧
    ∃ r ∈ ((Host.fresh link).run acts).2.readings (.device (.own 0) .read), r.Applies report ∧
      ∃ own since b, LatestTo ((Host.fresh link).history acts) r.place own since ∧
        r.shared.session.binding = some b ∧ b.id = own.id ∧ b.layout = own.layout ∧
        (r.device.read r.shared).1 = .ok (r.seen b.layout report).2 := by
  intro pad report link acts
  have hstage : ((Host.fresh link).run acts).2.stage? (.own 0) = some .acquired := by
    decide +kernel
  have harrives : ((Host.fresh link).run acts).2.shared.session.incoming? = some report := by
    decide +kernel
  have hnamed : ((Host.fresh link).run acts).2.shared.session.boundId.map GamepadId.value =
      some report.id := by
    decide +kernel
  have hgrants : ((Host.fresh link).history acts).map (fun g => (g.holder, g.binding.id.value)) =
      [(none, 7), (some (.own 0), 7), (none, 9), (some (.own 1), 7)] := by
    decide +kernel
  have hown : ∀ g ∈ (Host.fresh link).history acts, g.holder = some (.own 0) →
      g.binding.id = ⟨7, by decide⟩ ∧ g.binding.layout = .extended := by
    decide +kernel
  have hlatest : ∀ g ∈ ((Host.fresh link).history acts).getLast?,
      g.binding.id = ⟨7, by decide⟩ ∧ g.binding.layout = .extended := by
    decide +kernel
  have happlied := reads_last_granted link acts (.device (.own 0) .read)
  refine ⟨hgrants, ?_⟩
  -- from here on, only these facts about the host matter
  generalize ((Host.fresh link).run acts).2 = h at hstage harrives hnamed happlied ⊢
  generalize (Host.fresh link).history acts = log at hown hlatest happlied ⊢
  obtain ⟨d, found, acquired⟩ := Host.stage?_eq_some.mp hstage
  have reads : (⟨.own 0, d, h.shared⟩ : Turn ScriptedPeer) ∈
      h.readings (.device (.own 0) .read) := by
    simp [Host.readings, Host.turnOf, found]
  have applies : Turn.Applies ⟨.own 0, d, h.shared⟩ report := ⟨acquired, harrives, hnamed⟩
  obtain ⟨own, since, b, latest, hbound, _, _, hsame, hseen⟩ := happlied _ report reads applies
  obtain ⟨earlier, hlog⟩ := latest.1
  obtain ⟨hownId, hownLayout⟩ := hown ⟨some (.own 0), own⟩ (by simp [hlog]) rfl
  obtain ⟨hid, hlayout⟩ := hsame fun g hg => by
    have hmem : g ∈ log.getLast? := by
      rw [Option.mem_def] at hg
      simp [hlog, List.getLast?_append, List.getLast?_cons, hg]
    obtain ⟨hgid, hglayout⟩ := hlatest g hmem
    exact ⟨hgid.trans hownId.symm, hglayout.trans hownLayout.symm⟩
  exact ⟨_, reads, applies, own, since, b, latest, hbound, hid, hlayout, (hseen hlayout).1⟩

/-- Another device is created while the first one stays acquired, and the server names another
pad under another layout.  The first device takes in the reports of that pad. -/
theorem reads_foreign_pad :
    let pad := fun id bits =>
      Wire.Payload.ofBytes (Wire.GamepadResponse.encode ⟨id, ⟨bits⟩⟩ none).bytes
    let report : Wire.StateReport := { id := 9, sample := { lx := 100 } }
    let link : ScriptedPeer :=
      { inbox := [.ok (pad 7 0x0a), .ok (pad 7 0x0a), .ok (pad 9 0x09),
          .ok (.ofBytes report.encode.bytes)] }
    let acts : List Action := [.create 0x0800, .device (.own 0) .acquire, .create 0x0800]
    ∃ r ∈ ((Host.fresh link).run acts).2.readings (.device (.own 0) .read), r.Applies report ∧
      ∃ own since b, LatestTo ((Host.fresh link).history acts) r.place own since ∧
        r.shared.session.binding = some b ∧ b.id ≠ own.id ∧ b.layout ≠ own.layout ∧
        r.device.layout ≠ b.layout := by
  intro pad report link acts
  have hbound : ((Host.fresh link).run acts).2.shared.session.binding =
      some ⟨⟨9, by decide⟩, ⟨0x09⟩, some ""⟩ := by
    decide +kernel
  have hhistory : (Host.fresh link).history acts =
      [⟨none, ⟨⟨7, by decide⟩, ⟨0x0a⟩, some ""⟩⟩] ++
        ⟨some (.own 0), ⟨⟨7, by decide⟩, ⟨0x0a⟩, none⟩⟩ ::
          [⟨none, ⟨⟨9, by decide⟩, ⟨0x09⟩, some ""⟩⟩] := by
    decide +kernel
  have hdevice : (((Host.fresh link).run acts).2.device? (.own 0)).map
      (fun d => (d.lifecycle, d.layout)) = some (.acquired, .extended) := by
    decide +kernel
  have harrives : ((Host.fresh link).run acts).2.shared.session.incoming? = some report := by
    decide +kernel
  obtain ⟨d, found, hd⟩ := Option.map_eq_some_iff.mp hdevice
  obtain ⟨acquired, hlayout⟩ := Prod.mk.inj hd
  generalize ((Host.fresh link).run acts).2 = h at found hbound harrives ⊢
  generalize (Host.fresh link).history acts = log at hhistory ⊢
  refine ⟨⟨.own 0, d, h.shared⟩, ?_, ⟨acquired, harrives, ?_⟩, _, _, _, ⟨⟨_, hhistory⟩, ?_⟩,
    hbound, ?_⟩
  · simp [Host.readings, Host.turnOf, found]
  · show h.shared.session.boundId.map GamepadId.value = some 9
    rw [Session.boundId, hbound]
    rfl
  · intro g hg
    rw [List.mem_singleton.mp hg]
    simp
  · show _ ∧ _ ∧ d.layout ≠ _
    rw [hlayout]
    decide

end RemotePad
