import RemotePad.Proofs.Host.Laws
import RemotePad.Proofs.Session.Answers
import RemotePad.Transport.Scripted

/-!
# When no pad is found

A request that the server does not answer with a pad leaves nothing bound.  A request that was
never made, because the transport did not open, leaves the binding as it was.

* `Session.Unbound`: nothing is bound, so no device tells a pad's id or takes in a report.
* `binding_of_unseen`, `binding_of_missed`: what is bound after a search that found no pad, and
  after the acquisition of a device that failed.
* `guarded_law`: as long as every search can open the transport, what is bound is bound over an
  open transport.
* `not_found_unbinds` puts these together; `refused_search_keeps_binding` is a binding that
  outlives a failed search.
-/

namespace RemotePad

variable {τ : Type} [Transport τ]

/-! ## Nothing bound -/

/-- Nothing is bound: the pad's id reads as zero, and no device takes in a report. -/
structure Session.Unbound (s : Session τ) : Prop where
  binding : s.binding = none
  id : ∀ d : Device, d.property s .joystickId = .ok (.dword 0)
  silent : ∀ (d : Device) (signals : SignalTable),
    (d.read ⟨s, signals⟩).1.toOption.getD [] = [] ∧ (d.read ⟨s, signals⟩).2.1 = d

theorem Session.unbound_of_binding {s : Session τ} (h : s.binding = none) : s.Unbound where
  binding := h
  id := fun d => by rw [Device.property, boundId, h]; rfl
  silent := fun d signals => by
    refine Turn.read_of_not_applies (r := ⟨.own 0, d, ⟨s, signals⟩⟩) fun report applies => ?_
    have hnamed : s.boundId.map GamepadId.value = some report.id := applies.named
    rw [boundId, h] at hnamed
    cases hnamed

/-! ## Failed requests -/

/-- An acquisition that fails for lack of a pad has asked for one, unless the transport is
closed and does not open. -/
theorem Device.binding_of_missed {d : Device} {s : Shared τ}
    (missed : (d.acquire s).1 = .error .notFound) :
    (d.acquire s).2.2.session.binding =
      if s.session.isOpen || s.session.opens then none else s.session.binding := by
  cases hd : d.lifecycle with
  | closed => simp [acquire, hd] at missed
  | acquired => simp [acquire, hd] at missed
  | bound =>
    have hnone : s.session.granted? = none := by
      unfold Session.granted?
      cases hasked : (requestInput s.session).1 with
      | error e => rfl
      | ok b => simp [acquire_of_found hd hasked] at missed
    rw [d.session_acquire_of_bound s hd, binding_requestInput, hnone]

namespace Host

variable [LawfulTransport τ]

/-- A search that finds no pad has asked for one, unless the transport does not open. -/
theorem binding_of_unseen {h : Host τ} {a : Action} (looked : a.looks = true)
    (unseen : (h.perform a).1.sight? = some false) :
    (h.perform a).2.shared.session.binding =
      if h.shared.session.opens then none else h.shared.session.binding := by
  rcases h.search_of_looks looked with ⟨hsilent, _⟩ | ⟨version, hsession, hsight⟩
  · rw [hsilent] at unseen
    cases unseen
  · have hnone : h.shared.session.sighted? = none := by
      rw [← Option.not_isSome_iff_eq_none, ← Device.toBool_discover _ version]
      rw [hsight] at unseen
      simpa using unseen
    rw [hsession, Device.binding_discover, hnone]

/-! ## Searches that can open the transport -/

/-- Of every search it is noted whether it can open the transport. -/
def openingNotes : Notes τ Bool where
  search := fun s => [s.opens]

end Host

/-- What is bound is bound over an open transport. -/
def Session.Guarded (s : Session τ) : Prop :=
  s.binding = none ∨ s.isOpen = true

variable [LawfulTransport τ]

theorem Device.isOpen_discover {s : Session τ} (opens : s.opens = true) (version : UInt32) :
    (discover s version).2.isOpen = true := by
  rcases s.opens_cases with ⟨_, hconnect⟩ | ⟨hrefused, _⟩
  · have hopen := Session.isOpen_connect_ok hconnect
    have hasked := (s.connect.2.isOpen_acquire false true).trans hopen
    simp only [discover, hconnect]
    split <;> exact hasked
  · rw [opens] at hrefused
    cases hrefused

/-- Searches apart that cannot open the transport, every operation leaves what is bound
bound over an open one. -/
theorem guarded_law : Law (τ := τ) (fun _ => False) Host.openingNotes
    (fun s os s' => (∀ o ∈ os, o = true) → s.Guarded → s'.Guarded) where
  refl := fun s _ guarded => guarded
  trans := fun first second opened guarded =>
    second (fun o ho => opened o (List.mem_append_right _ ho))
      (first (fun o ho => opened o (List.mem_append_left _ ho)) guarded)
  direct := fun h a _ never => never.elim
  search := fun s version opened _ =>
    Or.inr (Device.isOpen_discover (opened s.opens (List.mem_singleton.mpr rfl)) version)
  acquire := fun r _ guarded => by
    rcases r.device.acquire_cases r.shared with
      ⟨_, hsame⟩ | ⟨_, b, _, _, hopen, _⟩ | ⟨_, _, _, hnone | ⟨hclosed, _, hbinding⟩, _⟩
    · rw [hsame]
      exact guarded
    · exact Or.inr hopen
    · exact Or.inl hnone
    · -- the transport was closed, so nothing was bound
      refine Or.inl (hbinding.trans (guarded.resolve_right ?_))
      rw [hclosed]
      decide
  read := fun r _ guarded => by
    obtain ⟨_, hopen, hbinding, _⟩ := r.device.read_frame r.shared
    exact guarded.imp hbinding.trans hopen.trans
  giveBack := fun s _ _ => Or.inl rfl

namespace Host

theorem guarded_run (link : τ) {acts : List Action} (indirect : ∀ a ∈ acts, a.isDirect = false)
    (opened : ∀ o ∈ (fresh link).chronicle openingNotes acts, o = true) :
    ((fresh link).run acts).2.shared.session.Guarded := by
  refine guarded_law.run (fresh link) (fun a ha hdirect => ?_) opened (Or.inl rfl)
  rw [indirect a ha] at hdirect
  cases hdirect

/-- A device that is to be acquired finds what is bound bound over an open transport. -/
theorem guarded_of_mem_acquisitions {h : Host τ} {a : Action} {r : Turn τ}
    (guarded : h.shared.session.Guarded) (hr : r ∈ h.acquisitions a) :
    r.shared.session.Guarded := by
  unfold acquisitions at hr
  split at hr
  · rw [(mem_turnOf hr).2.2]
    exact guarded
  · obtain ⟨m, _, hr⟩ := mem_turnsOf hr
    refine Turn.along_invariant (P := fun s => s.session.Guarded) (fun d s hs => ?_) guarded hr
    exact guarded_law.acquire ⟨.own 0, d, s⟩ (fun o ho => nomatch ho) hs
  · cases hr

end Host

/-- After every run, a search that finds no pad and an acquisition that fails for lack of one
leave nothing bound, if they could ask the server at all; else the binding stays.  Acquisitions
leave nothing bound in any case, as long as the devices alone use the session and every
search can open the transport. -/
theorem not_found_unbinds (link : τ) (acts : List Action) :
    let h := ((Host.fresh link).run acts).2
    (∀ a, a.looks = true → (h.perform a).1.sight? = some false →
      if h.shared.session.opens then (h.perform a).2.shared.session.Unbound
      else (h.perform a).2.shared.session.binding = h.shared.session.binding) ∧
    (∀ a, ∀ r ∈ h.acquisitions a, (r.device.acquire r.shared).1 = .error .notFound →
      if r.shared.session.isOpen || r.shared.session.opens then
        (r.device.acquire r.shared).2.2.session.Unbound
      else (r.device.acquire r.shared).2.2.session.binding = r.shared.session.binding) ∧
    ((∀ a ∈ acts, a.isDirect = false) →
      (∀ o ∈ (Host.fresh link).chronicle Host.openingNotes acts, o = true) →
      ∀ a, ∀ r ∈ h.acquisitions a, (r.device.acquire r.shared).1 = .error .notFound →
        (r.device.acquire r.shared).2.2.session.Unbound) := by
  intro h
  refine ⟨fun a looked unseen => ?_, fun a r _ missed => ?_, fun indirect opened a r hr missed => ?_⟩
  · have hbinding := Host.binding_of_unseen looked unseen
    split
    · next opens => exact Session.unbound_of_binding (by rw [hbinding, if_pos opens])
    · next refused => rw [hbinding, if_neg refused]
  · have hbinding := Device.binding_of_missed missed
    split
    · next asked => exact Session.unbound_of_binding (by rw [hbinding, if_pos asked])
    · next refused => rw [hbinding, if_neg refused]
  · have hbinding := Device.binding_of_missed missed
    have guarded : r.shared.session.Guarded :=
      Host.guarded_of_mem_acquisitions (Host.guarded_run link indirect opened) hr
    apply Session.unbound_of_binding
    rcases guarded with hnone | hopen
    · rw [hbinding, hnone, ite_self]
    · rw [hbinding, hopen, Bool.true_or, if_pos rfl]

/-- A pad is bound; then the server answers with something else, to a search as well as to a
device. -/
theorem not_found_unbinds_after_wrong_answer :
    let pad := Wire.Payload.ofBytes (Wire.GamepadResponse.encode ⟨7, ⟨0x0a⟩⟩ none).bytes
    let link : ScriptedPeer := { inbox := [.ok pad, .ok (.ofBytes [9, 1])] }
    let acts : List Action := [.create 0x0800]
    let h := ((Host.fresh link).run acts).2
    h.shared.session.binding.isSome = true ∧
    ((∀ a ∈ acts, a.isDirect = false) ∧
      ∀ o ∈ (Host.fresh link).chronicle Host.openingNotes acts, o = true) ∧
    ((h.perform (.discover 0x0800)).1.sight? = some false ∧
      (h.perform (.discover 0x0800)).2.shared.session.Unbound) ∧
    ∃ r ∈ h.acquisitions (.device (.own 0) .acquire),
      (r.device.acquire r.shared).1 = .error .notFound ∧
      (r.device.acquire r.shared).2.2.session.Unbound := by
  intro pad link acts h
  have hbound : h.shared.session.binding.isSome = true := by decide +kernel
  have indirect : ∀ a ∈ acts, a.isDirect = false := by decide
  have opened : ∀ o ∈ (Host.fresh link).chronicle Host.openingNotes acts, o = true := by
    decide +kernel
  have hopens : h.shared.session.opens = true := by decide +kernel
  have hunseen : (h.perform (.discover 0x0800)).1.sight? = some false := by decide +kernel
  have hstage : h.stage? (.own 0) = some .bound := by decide +kernel
  have hmissed : (Device.requestInput h.shared.session).1.toOption = none := by decide +kernel
  obtain ⟨searched, _, acquired⟩ := not_found_unbinds link acts
  have hsearched := searched (.discover 0x0800) rfl hunseen
  rw [if_pos hopens] at hsearched
  refine ⟨hbound, ⟨indirect, opened⟩, ⟨hunseen, hsearched⟩, ?_⟩
  obtain ⟨d, found, bound⟩ := Host.stage?_eq_some.mp hstage
  have turn : (⟨.own 0, d, h.shared⟩ : Turn ScriptedPeer) ∈
      h.acquisitions (.device (.own 0) .acquire) := by
    simp [Host.acquisitions, Host.turnOf, found]
  have missed : (d.acquire h.shared).1 = .error .notFound := by
    cases hasked : (Device.requestInput h.shared.session).1 with
    | ok b => rw [hasked] at hmissed; cases hmissed
    | error e => rw [Device.acquire_of_missed bound hasked]
  exact ⟨_, turn, missed, acquired indirect opened _ _ turn missed⟩

/-- A device is acquired when the transport stops opening.  A search finds nothing, but the pad
stays bound: its id is told, and its reports are taken in. -/
theorem refused_search_keeps_binding :
    let pad := Wire.Payload.ofBytes (Wire.GamepadResponse.encode ⟨7, ⟨0x0a⟩⟩ none).bytes
    let report : Wire.StateReport := { id := 7, sample := { lx := 100 } }
    let link : ScriptedPeer :=
      { inbox := [.ok pad, .ok pad, .ok (.ofBytes report.encode.bytes)] }
    let acts : List Action := [.create 0x0800, .device (.own 0) .acquire]
    let h := ((Host.fresh link).run acts).2.mapLink fun p =>
      { p with openFault := some (.setup "bind" "address in use") }
    let after := (h.perform (.discover 0x0800)).2
    (h.perform (.discover 0x0800)).1.sight? = some false ∧
    after.shared.session.boundId.map GamepadId.value = some 7 ∧
    (∀ d : Device, d.property after.shared.session .joystickId = .ok (.dword 7)) ∧
    ∃ r ∈ after.readings (.device (.own 0) .read), r.Applies report := by
  intro pad report link acts h after
  have hunseen : (h.perform (.discover 0x0800)).1.sight? = some false := by decide +kernel
  have hbound : after.shared.session.boundId.map GamepadId.value = some 7 := by decide +kernel
  have hstage : after.stage? (.own 0) = some .acquired := by decide +kernel
  have harrives : after.shared.session.incoming? = some report := by decide +kernel
  refine ⟨hunseen, hbound, fun d => by rw [Device.property, hbound]; rfl, ?_⟩
  generalize after = h' at hbound hstage harrives ⊢
  obtain ⟨d, found, acquired⟩ := Host.stage?_eq_some.mp hstage
  refine ⟨⟨.own 0, d, h'.shared⟩, ?_, acquired, harrives, hbound⟩
  simp [Host.readings, Host.turnOf, found]

end RemotePad
