import RemotePad.Proofs.Host.Grants
import RemotePad.Proofs.Wire.Response
import RemotePad.Transport.Scripted

/-!
# Where a binding comes from

A session that is used by itself, without devices, is bound by what its latest request was
answered with, until the pad is given back.

* `Binding.Sound`: what the binding of an answer that was accepted is like.
* `Host.transcript` is what was done with a session and what was told; `latestRebinding?` is
  the last request or release in it.
* `binding_perform`: a request puts its answer in place of the binding, a release removes
  it, and nothing else touches it.  `binding_run` is the same of a run.
* `binding_history`: a session holds a binding exactly when the last of its requests and
  releases was a request that this binding was the answer to; and every such binding is
  sound.
-/

namespace RemotePad

open Wire

/-! ## Bindings that are accepted -/

/-- The binding names a pad that can be reached, by a name only if one was wanted. -/
structure Binding.Sound (b : Binding) (wantName : Bool) : Prop where
  id_ne_zero : b.id.value ≠ 0
  reachable : b.flags.bits &&& 0x08 = 0x08
  named : b.name.isSome = wantName
  trimmed : ∀ name, b.name = some name → name.toList.getLast? ≠ some '\x00'

theorem Binding.sound_of_response {received : Payload} {wantName : Bool} {b : Binding}
    (accepted : Binding.ofResponse received wantName = .ok b) : b.Sound wantName := by
  unfold Binding.ofResponse at accepted
  split at accepted
  · cases accepted
  · next response _ =>
    split at accepted
    · cases accepted
    · next id _ =>
      cases hflags : response.flags.isCompatible with
      | false => simp [hflags] at accepted
      | true =>
        cases wantName with
        | false =>
          simp only [hflags, Bool.not_true, Bool.false_eq_true, if_false] at accepted
          cases accepted
          exact ⟨id.ne_zero, eq_of_beq hflags, rfl, fun _ h => nomatch h⟩
        | true =>
          simp only [hflags, Bool.not_true, Bool.false_eq_true, if_false, if_true] at accepted
          split at accepted
          · cases accepted
          · next name hname =>
            cases accepted
            refine ⟨id.ne_zero, eq_of_beq hflags, rfl, fun other hother => ?_⟩
            obtain rfl := Option.some.inj hother
            exact getLast?_of_decodeName hname

variable {τ : Type} [Transport τ]

theorem Session.sound_acquire {s : Session τ} {notify wantName : Bool} {b : Binding}
    (answered : (s.acquire notify wantName).1 = .ok b) : b.Sound wantName := by
  have hrequest : (s.request notify wantName).1 = .ok b := by
    unfold acquire at answered
    dsimp only at answered
    split at answered
    · next hask => rw [hask, ← answered]
    · cases answered
  unfold request at hrequest
  dsimp only at hrequest
  split at hrequest
  · cases hrequest
  · split at hrequest
    · cases hrequest
    · exact Binding.sound_of_response hrequest

/-! ## What was done and told -/

/-- The action asks for a pad or gives it back. -/
def Action.rebinds : Action → Bool
  | .acquire _ _ | .release => true
  | _ => false

/-- The binding that a reply tells of. -/
def Reply.bound? : Reply → Option Binding
  | .binding (.ok b) => some b
  | _ => none

theorem Reply.bound?_eq_some {r : Reply} {b : Binding} :
    r.bound? = some b ↔ r = .binding (.ok b) := by
  constructor
  · intro h
    cases r with
    | binding result =>
      cases result with
      | ok b' => rw [Option.some.inj h]
      | error e => cases h
    | _ => cases h
  · rintro rfl
    rfl

/-- The last request or release, and what was told. -/
def latestRebinding? (told : List (Action × Reply)) : Option (Action × Reply) :=
  (told.filter fun e => e.1.rebinds).getLast?

theorem latestRebinding?_cons (e : Action × Reply) (told : List (Action × Reply)) :
    latestRebinding? (e :: told) =
      (latestRebinding? told).or (if e.1.rebinds then some e else none) := by
  rw [latestRebinding?, latestRebinding?, List.filter_cons]
  cases e.1.rebinds with
  | false => simp
  | true =>
    simp only [if_true, List.getLast?_cons]
    cases (told.filter fun e => e.1.rebinds).getLast? <;> rfl

theorem mem_of_latestRebinding? {told : List (Action × Reply)} {e : Action × Reply}
    (latest : latestRebinding? told = some e) : e ∈ told :=
  List.mem_of_mem_filter (List.mem_of_getLast? latest)

namespace Host

/-- What was done, and what was told of it. -/
def transcript (h : Host τ) (acts : List Action) : List (Action × Reply) :=
  acts.zip (h.run acts).1

theorem transcript_cons (h : Host τ) (a : Action) (rest : List Action) :
    h.transcript (a :: rest) = (a, (h.perform a).1) :: (h.perform a).2.transcript rest := rfl

/-- What was told was the reply to the action at its time. -/
theorem reply_of_mem_transcript {h : Host τ} {acts : List Action} {e : Action × Reply}
    (he : e ∈ h.transcript acts) : ∃ h' : Host τ, (h'.perform e.1).1 = e.2 := by
  induction acts generalizing h with
  | nil => cases he
  | cons a rest ih =>
    rw [transcript_cons] at he
    rcases List.mem_cons.mp he with rfl | hrest
    · exact ⟨h, rfl⟩
    · exact ih hrest

/-! ## The binding along a run -/

/-- A request is answered with the binding or fails, and a release ends it; the other
operations of a session leave it alone. -/
theorem binding_perform (h : Host τ) {a : Action} (direct : a.isDirect = true) :
    (h.perform a).2.shared.session.binding =
      if a.rebinds then (h.perform a).1.bound? else h.shared.session.binding := by
  cases a with
  | connect | disconnect | receive => rfl
  | release => rfl
  | drawSequence count => exact binding_drawNumbers count h.shared.session
  | acquire notify wantName =>
    have hbinding := h.shared.session.binding_acquire notify wantName
    simp only [perform, withSession, Action.rebinds, if_true, hbinding]
    cases (h.shared.session.acquire notify wantName).1 <;> rfl
  | _ => cases direct

/-- After a run, the binding is what the last request or release left. -/
theorem binding_run (h : Host τ) {acts : List Action} (direct : ∀ a ∈ acts, a.isDirect = true) :
    (h.run acts).2.shared.session.binding =
      match latestRebinding? (h.transcript acts) with
      | some e => e.2.bound?
      | none => h.shared.session.binding := by
  induction acts generalizing h with
  | nil => rfl
  | cons a rest ih =>
    have hfirst := h.binding_perform (direct a List.mem_cons_self)
    have hrest := ih (h.perform a).2 fun b hb => direct b (List.mem_cons_of_mem a hb)
    have hrun : (h.run (a :: rest)).2 = ((h.perform a).2.run rest).2 := rfl
    rw [hrun, hrest, transcript_cons, latestRebinding?_cons]
    cases latestRebinding? ((h.perform a).2.transcript rest) with
    | some e => rfl
    | none =>
      rw [hfirst]
      cases a.rebinds <;> rfl

/-- Every binding that a request was answered with is sound. -/
theorem sound_of_mem_transcript {h : Host τ} {acts : List Action} {notify wantName : Bool}
    {b : Binding} (answered : (.acquire notify wantName, .binding (.ok b)) ∈ h.transcript acts) :
    b.Sound wantName := by
  obtain ⟨h', hreply⟩ := reply_of_mem_transcript answered
  exact Session.sound_acquire (Reply.binding.inj hreply)

/-- Only a request is told of a binding. -/
theorem eq_acquire_of_bound? {h : Host τ} {a : Action} {b : Binding} (rebinds : a.rebinds = true)
    (told : (h.perform a).1.bound? = some b) : ∃ notify wantName, a = .acquire notify wantName := by
  cases a with
  | acquire notify wantName => exact ⟨notify, wantName, rfl⟩
  | release => cases told
  | _ => cases rebinds

end Host

/-! ## The history of the binding -/

/-- After any operations on a new session, over any transport, the session is bound exactly to
what the last request or release left: to `b` if that was a request which was answered with
`b`, to nothing otherwise.  Every binding that a request was ever answered with has an id other
than zero, says that the pad is reachable, and has a name exactly if the request wanted one;
the name does not end in NUL.  Opening, closing, receiving and numbering leave the binding
alone. -/
theorem binding_history (link : τ) (acts : List Action)
    (direct : ∀ a ∈ acts, a.isDirect = true) :
    let h := ((Host.fresh link).run acts).2
    let told := (Host.fresh link).transcript acts
    (∀ b, h.shared.session.binding = some b ↔ ∃ notify wantName,
      latestRebinding? told = some (.acquire notify wantName, .binding (.ok b))) ∧
    (∀ notify wantName b, (.acquire notify wantName, .binding (.ok b)) ∈ told →
      b.Sound wantName) ∧
    ∀ a, a.isDirect = true → a.rebinds = false →
      (h.perform a).2.shared.session.binding = h.shared.session.binding := by
  intro h told
  have hbinding := (Host.fresh link).binding_run direct
  refine ⟨fun b => ⟨fun hbound => ?_, ?_⟩, fun _ _ _ => Host.sound_of_mem_transcript, ?_⟩
  · cases hlatest : latestRebinding? told with
    | none =>
      rw [hlatest] at hbinding
      cases hbinding.symm.trans hbound
    | some e =>
      rw [hlatest] at hbinding
      have htold : e.2.bound? = some b := hbinding.symm.trans hbound
      have hrebinds : e.1.rebinds = true := (List.mem_filter.mp (List.mem_of_getLast? hlatest)).2
      obtain ⟨h', hreply⟩ := Host.reply_of_mem_transcript (mem_of_latestRebinding? hlatest)
      obtain ⟨notify, wantName, hasked⟩ :=
        Host.eq_acquire_of_bound? (h := h') hrebinds (by rw [hreply]; exact htold)
      refine ⟨notify, wantName, ?_⟩
      rw [← hasked, ← Reply.bound?_eq_some.mp htold]
  · rintro ⟨notify, wantName, hlatest⟩
    rw [hlatest] at hbinding
    exact hbinding
  · intro a hdirect hkeeps
    rw [h.binding_perform hdirect, hkeeps]
    rfl

/-- A request that is answered with a state report fails; the next one is answered with a
named pad, which stays bound while the session goes on and is closed. -/
theorem binding_history_named :
    let report := (StateReport.encode { id := 7 }).bytes
    let pad := (GamepadResponse.encode ⟨7, ⟨0x0a⟩⟩ (some "Pad\x00")).bytes
    let link : ScriptedPeer :=
      { inbox := [report, pad, report].map fun bytes => .ok (.ofBytes bytes) }
    let acts : List Action :=
      [.connect, .acquire false false, .acquire true true, .receive, .drawSequence 2, .disconnect]
    let b : Binding := ⟨⟨7, by decide⟩, ⟨0x0a⟩, some "Pad"⟩
    (∀ a ∈ acts, a.isDirect = true) ∧
      ((Host.fresh link).run acts).2.shared.session.binding = some b ∧ b.Sound true := by
  intro report pad link acts b
  have direct : ∀ a ∈ acts, a.isDirect = true := by decide
  have hlatest : latestRebinding? ((Host.fresh link).transcript acts) =
      some (.acquire true true, .binding (.ok b)) := by rfl
  obtain ⟨hbound, hsound, _⟩ := binding_history link acts direct
  exact ⟨direct, (hbound b).mpr ⟨true, true, hlatest⟩,
    hsound true true b (mem_of_latestRebinding? hlatest)⟩

end RemotePad
