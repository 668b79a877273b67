import Mathlib.Data.List.Induction
import RemotePad.Proofs.Device.Reading
import RemotePad.Proofs.Host.Outcomes

/-!
# One pad for all devices

What one device does to the shared session, it does to all: a device that is given back
closes the transport under every other device that is still acquired.

* `Host.LosesPad`: an action of a run withdrew the pad, and none has renewed it since.
* `acquired_device_receives`: an acquired device takes in the reports of the bound pad
  exactly when the run so far has not lost it.
* `acquired_device_cut_off`: runs that lose the pad under an acquired device.
-/

namespace RemotePad

namespace Host

variable {τ : Type} [Transport τ]

/-- No action of a run renews the pad. -/
def Unrenewed (h : Host τ) (acts : List Action) : Prop :=
  ∀ before a after, acts = before ++ a :: after → ¬ (h.run before).2.Renews a

/-- An action of a run withdrew the pad and left a session that is not live, and no later
action renewed the pad. -/
def LosesPad (h : Host τ) (acts : List Action) : Prop :=
  ∃ before a after, acts = before ++ a :: after ∧ (h.run before).2.Withdraws a ∧
    ¬ (h.run (before ++ [a])).2.shared.session.Live ∧ (h.run (before ++ [a])).2.Unrenewed after

/-- A device takes in whatever report of the bound pad comes next over the transport. -/
def Receives (h : Host τ) (d : Device) : Prop :=
  h.shared.session.isOpen = true ∧ ∃ b, h.shared.session.binding = some b ∧
    ∀ (link : τ) (payload : Wire.Payload) (report : Wire.StateReport),
      Transport.isOpen link = true → (Transport.receive link).1 = .ok payload →
      Wire.StateReport.decode payload.bytes = .ok report → report.id = b.id.value →
      d.read (h.shared.withLink link) =
        (let taken := d.takeIn [report.sample] (h.shared.withLink (Transport.receive link).2)
         (.ok taken.1, taken.2))

theorem receives_of_live {h : Host τ} {d : Device} (live : h.shared.session.Live)
    (acquired : d.lifecycle = .acquired) : h.Receives d := by
  obtain ⟨hopen, b, hbinding⟩ := live
  refine ⟨hopen, b, hbinding, fun link payload report hlink hreceive hdecode hid => ?_⟩
  have hsample : reportedSample b.id (Transport.receive link).1 = some report.sample := by
    simp only [reportedSample, hreceive, hdecode, hid, if_true]
  have hread := d.read_eq_takeIn (h.shared.withLink link) b acquired hlink hbinding
  rw [hread]
  simp only [Shared.withLink, hsample, Option.toList_some]

/-! ## Runs -/

theorem unrenewed_nil (h : Host τ) : h.Unrenewed [] := by
  intro before a after hsplit
  cases before <;> cases hsplit

theorem unrenewed_snoc {h : Host τ} {acts : List Action} {a : Action}
    (unrenewed : h.Unrenewed acts) (hlast : ¬ (h.run acts).2.Renews a) :
    h.Unrenewed (acts ++ [a]) := by
  intro before b after hsplit
  rcases List.eq_nil_or_concat after with rfl | ⟨init, c, rfl⟩
  · obtain ⟨rfl, hab⟩ := List.append_inj' hsplit rfl
    cases hab
    exact hlast
  · rw [List.concat_eq_append, ← List.cons_append, ← List.append_assoc] at hsplit
    obtain ⟨rfl, _⟩ := List.append_inj' hsplit rfl
    exact unrenewed before b init rfl

variable [LawfulTransport τ]

/-- A session that is not live becomes live only if the pad is renewed. -/
theorem not_live_run {h : Host τ} {acts : List Action} (indirect : ∀ a ∈ acts, a.isDirect = false)
    (lost : ¬ h.shared.session.Live) (unrenewed : h.Unrenewed acts) :
    ¬ (h.run acts).2.shared.session.Live := by
  induction acts generalizing h with
  | nil => exact lost
  | cons a rest ih =>
    have hrenews : ¬ h.Renews a := unrenewed [] a rest rfl
    have hlost : ¬ (h.perform a).2.shared.session.Live := fun hlive =>
      (live_source (indirect a List.mem_cons_self) hlive).elim lost hrenews
    refine ih (fun b hb => indirect b (List.mem_cons_of_mem a hb)) hlost ?_
    intro before b after hsplit
    exact unrenewed (a :: before) b after (congrArg (a :: ·) hsplit)

/-- Where the pad was lost, the session is not live. -/
theorem LosesPad.not_live {h : Host τ} {acts : List Action}
    (indirect : ∀ a ∈ acts, a.isDirect = false) (loses : h.LosesPad acts) :
    ¬ (h.run acts).2.shared.session.Live := by
  obtain ⟨before, a, after, rfl, _, hlost, hafter⟩ := loses
  have hsplit : before ++ a :: after = (before ++ [a]) ++ after := by simp
  rw [hsplit, run_append]
  refine not_live_run (fun b hb => indirect b ?_) hlost hafter
  exact List.mem_append_right before (List.mem_cons_of_mem a hb)

/-- Where a device is acquired after a run, the session is live or the pad was lost. -/
theorem live_or_losesPad (link : τ) (acts : List Action)
    (indirect : ∀ a ∈ acts, a.isDirect = false) {target : DeviceRef}
    (acquired : ((fresh link).run acts).2.stage? target = some .acquired) :
    ((fresh link).run acts).2.shared.session.Live ∨ (fresh link).LosesPad acts := by
  induction acts using List.reverseRecOn with
  | nil =>
    -- a host that has done nothing has no devices
    cases target <;> cases acquired
  | append_singleton init a ih =>
    rw [run_snoc] at acquired ⊢
    have hinit : ∀ b ∈ init, b.isDirect = false := fun b hb =>
      indirect b (List.mem_append_left [a] hb)
    have ha : a.isDirect = false := indirect a (List.mem_append_right init List.mem_cons_self)
    cases ((fresh link).run init).2.outcome ha with
    | withdrawn cause _ =>
      by_cases hlive : (((fresh link).run init).2.perform a).2.shared.session.Live
      · exact Or.inl hlive
      · exact Or.inr ⟨init, a, [], rfl, cause, by rwa [run_snoc], unrenewed_nil _⟩
    | live hlive _ => exact Or.inl hlive
    | undisturbed same unseen =>
      -- what held before the last action holds after it
      rcases ih hinit (same.idle target acquired) with
        hlive | ⟨before, b, after, rfl, hw, hlost, hafter⟩
      · exact Or.inl (same.live_iff.mpr hlive)
      · refine Or.inr ⟨before, b, after ++ [a], by simp, hw, hlost, unrenewed_snoc hafter ?_⟩
        rw [← run_append, List.append_assoc]
        exact not_renews_of_undisturbed same unseen

end Host

/-- A device that is acquired after a run takes in the reports of the bound pad, unless the
pad was lost, and then it does not. -/
theorem acquired_device_receives {τ : Type} [Transport τ] [LawfulTransport τ] (link : τ)
    (acts : List Action) (indirect : ∀ a ∈ acts, a.isDirect = false) (target : DeviceRef)
    (d : Device) (found : ((Host.fresh link).run acts).2.device? target = some d)
    (acquired : d.lifecycle = .acquired) :
    ((Host.fresh link).run acts).2.Receives d ↔ ¬ (Host.fresh link).LosesPad acts := by
  constructor
  · intro receives loses
    obtain ⟨hopen, b, hbinding, _⟩ := receives
    exact loses.not_live indirect ⟨hopen, b, hbinding⟩
  · intro kept
    have hstage := Host.stage?_eq_some.mpr ⟨d, found, acquired⟩
    rcases Host.live_or_losesPad link acts indirect hstage with hlive | hloses
    · exact Host.receives_of_live hlive acquired
    · exact absurd hloses kept

/-- Two devices, of which the second is acquired after the first was given back. -/
theorem acquired_device_receives_reacquired :
    let pad := Wire.Payload.ofBytes (Wire.GamepadResponse.encode ⟨7, ⟨0x0a⟩⟩ none).bytes
    let link : ScriptedPeer := { inbox := List.replicate 4 (.ok pad) }
    let acts : List Action :=
      [.create 0x0800, .create 0x0800, .device (.own 0) .acquire, .device (.own 0) .unacquire,
        .device (.own 1) .acquire]
    ∃ d, ((Host.fresh link).run acts).2.device? (.own 1) = some d ∧ d.lifecycle = .acquired ∧
      ((Host.fresh link).run acts).2.Receives d ∧ ¬ (Host.fresh link).LosesPad acts := by
  intro pad link acts
  have indirect : ∀ a ∈ acts, a.isDirect = false := by decide
  have hlive : ((Host.fresh link).run acts).2.shared.session.Live := by decide +kernel
  have hstage : ((Host.fresh link).run acts).2.stage? (.own 1) = some .acquired := by
    decide +kernel
  obtain ⟨d, found, acquired⟩ := Host.stage?_eq_some.mp hstage
  have kept : ¬ (Host.fresh link).LosesPad acts := fun loses => loses.not_live indirect hlive
  exact ⟨d, found, acquired,
    (acquired_device_receives link acts indirect (.own 1) d found acquired).mpr kept, kept⟩

/-- The second device stays acquired while the first one gives the pad back, or fails to
acquire it, or while the host finds no pad; none of these leaves it a pad. -/
theorem acquired_device_cut_off :
    let pad := Wire.Payload.ofBytes (Wire.GamepadResponse.encode ⟨7, ⟨0x0a⟩⟩ none).bytes
    let link : ScriptedPeer := { inbox := List.replicate 4 (.ok pad) }
    let creates : List Action := [.create 0x0800, .create 0x0800]
    let acquires : List Action := [.device (.own 0) .acquire, .device (.own 1) .acquire]
    ∀ acts ∈ [creates ++ acquires ++ [.device (.own 0) .unacquire],
        creates ++ [.create 0x0800, .device (.own 1) .acquire, .device (.own 0) .acquire],
        creates ++ acquires ++ [.discover 0x0800]],
      (∀ a ∈ acts, a.isDirect = false) ∧
      ((Host.fresh link).run acts).2.stage? (.own 1) = some .acquired ∧
      ¬ ((Host.fresh link).run acts).2.shared.session.Live := by
  decide +kernel

end RemotePad
