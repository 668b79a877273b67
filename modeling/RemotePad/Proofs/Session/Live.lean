import RemotePad.Device

/-!
# Live sessions

A session is *live* when its transport is open and it holds a binding: then reports of
the bound pad can come in.

* What the operations of a session do to the openness of its transport and to the
  binding: opening, closing and traffic as the transport has it, and `acquire` puts the
  answer in place of the binding.
* `Session.incoming?` is the state report that the next reception brings, if it brings one.
* `requestInput_cases`, `live_discover` and `live_of_live_discover` say what comes of asking
  for a pad.  Success makes the session live; after a failure there is no binding, or the
  transport could not be opened and the binding is the one from before.
-/

namespace RemotePad

variable {τ : Type} [Transport τ]

/-- The transport is open and a pad is bound. -/
def Session.Live (s : Session τ) : Prop :=
  s.isOpen = true ∧ ∃ b, s.binding = some b

instance (s : Session τ) : Decidable s.Live :=
  decidable_of_iff (s.isOpen = true ∧ s.binding.isSome = true)
    (and_congr_right fun _ => Option.isSome_iff_exists)

theorem Session.not_live {s : Session τ} (h : s.binding = none ∨ s.isOpen = false) :
    ¬ s.Live := by
  rintro ⟨hopen, b, hbinding⟩
  rcases h with hnone | hclosed
  · rw [hnone] at hbinding
    cases hbinding
  · rw [hclosed] at hopen
    cases hopen

/-! ## Operations of a session -/

namespace Session

/-- The binding afterwards is the answer, if there is an acceptable one. -/
theorem binding_acquire (s : Session τ) (notify wantName : Bool) :
    (s.acquire notify wantName).2.binding = (s.acquire notify wantName).1.toOption := by
  unfold acquire
  simp only
  split <;> rfl

variable [LawfulTransport τ]

theorem isOpen_connect_ok {s : Session τ} (h : s.connect.1 = .ok ()) :
    s.connect.2.isOpen = true :=
  LawfulTransport.isOpen_connect_ok s.link h

/-- A failing attempt to open leaves a closed transport closed. -/
theorem isOpen_connect_error {s : Session τ} {e : TransportError} (h : s.connect.1 = .error e)
    (closed : s.isOpen = false) : s.connect.2.isOpen = false := by
  cases hopen : s.connect.2.isOpen with
  | false => rfl
  | true =>
    have hbefore : s.isOpen = true := LawfulTransport.isOpen_connect_error s.link e h hopen
    exact absurd (hbefore.symm.trans closed) (by decide)

theorem isOpen_disconnect (s : Session τ) : s.disconnect.isOpen = false :=
  LawfulTransport.isOpen_disconnect s.link

theorem isOpen_receive (s : Session τ) : s.receive.2.isOpen = s.isOpen :=
  LawfulTransport.isOpen_receive s.link

theorem isOpen_request (s : Session τ) (notify wantName : Bool) :
    (s.request notify wantName).2.isOpen = s.isOpen := by
  have hsend := LawfulTransport.isOpen_send s.link (Wire.getGamepadRequest notify)
  unfold request
  simp only
  split
  · exact hsend
  · split
    · exact (LawfulTransport.isOpen_receive _).trans hsend
    · exact (LawfulTransport.isOpen_receive _).trans hsend

theorem isOpen_acquire (s : Session τ) (notify wantName : Bool) :
    (s.acquire notify wantName).2.isOpen = s.isOpen := by
  have hrequest := s.isOpen_request notify wantName
  unfold acquire
  simp only
  split <;> exact hrequest

end Session

/-! ## What comes in -/

/-- The state report that comes in next, of whatever pad it is. -/
def Session.incoming? (s : Session τ) : Option Wire.StateReport :=
  if s.isOpen then
    match s.receive.1 with
    | .ok payload => (Wire.StateReport.decode payload.bytes).toOption
    | .error _ => none
  else none

/-! ## Asking for a pad -/

variable [LawfulTransport τ]

/-- Asking for reports binds a pad over an open transport, or clears the binding, or
fails to open a closed transport. -/
theorem Device.requestInput_cases (s : Session τ) :
    let asked := Device.requestInput s
    (∃ b, asked.1 = .ok b ∧ asked.2.isOpen = true ∧ asked.2.binding = some b) ∨
    (∃ e, asked.1 = .error e ∧ asked.2.binding = none) ∨
    (∃ e, asked.1 = .error e ∧ s.isOpen = false ∧ asked.2.isOpen = false ∧
      asked.2.binding = s.binding) := by
  have ask : ∀ s' : Session τ, s'.isOpen = true →
      let asked := s'.acquire true false
      (∃ b, asked.1.mapError DeviceError.ofSession = .ok b ∧ asked.2.isOpen = true ∧
        asked.2.binding = some b) ∨
      (∃ e, asked.1.mapError DeviceError.ofSession = .error e ∧ asked.2.binding = none) := by
    intro s' hopen
    have hbinding := s'.binding_acquire true false
    have hstays := (s'.isOpen_acquire true false).trans hopen
    cases hanswer : (s'.acquire true false).1 with
    | ok b => exact Or.inl ⟨b, by rw [hanswer]; rfl, hstays, by rw [hbinding, hanswer]; rfl⟩
    | error e => exact Or.inr ⟨_, by rw [hanswer]; rfl, by rw [hbinding, hanswer]; rfl⟩
  unfold Device.requestInput
  cases hopen : s.isOpen with
  | true =>
    rcases ask s hopen with h | h
    · exact Or.inl h
    · exact Or.inr (Or.inl h)
  | false =>
    cases hconnect : s.connect.1 with
    | error e =>
      simp only [Bool.false_eq_true, if_false, hconnect]
      exact Or.inr (Or.inr ⟨_, rfl, trivial, Session.isOpen_connect_error hconnect hopen, rfl⟩)
    | ok _ =>
      simp only [Bool.false_eq_true, if_false, hconnect]
      rcases ask s.connect.2 (Session.isOpen_connect_ok hconnect) with h | h
      · exact Or.inl h
      · exact Or.inr (Or.inl h)

/-- A discovery that finds a pad leaves a live session. -/
theorem Device.live_discover {s : Session τ} {version : UInt32} {i : DeviceInstance}
    (h : (Device.discover s version).1 = .ok i) : (Device.discover s version).2.Live := by
  unfold Device.discover at h ⊢
  cases hconnect : s.connect.1 with
  | error e => simp [hconnect] at h
  | ok _ =>
    simp only [hconnect] at h ⊢
    cases hanswer : (s.connect.2.acquire false true).1 with
    | error e => simp [hanswer] at h
    | ok b =>
      simp only
      refine ⟨?_, b, ?_⟩
      · exact (Session.isOpen_acquire _ _ _).trans (Session.isOpen_connect_ok hconnect)
      · rw [Session.binding_acquire, hanswer]
        rfl

/-- A discovery that finds none leaves no session live that was not. -/
theorem Device.live_of_live_discover {s : Session τ} {version : UInt32} {e : DeviceError}
    (missed : (Device.discover s version).1 = .error e)
    (live : (Device.discover s version).2.Live) : s.Live := by
  unfold Device.discover at missed live
  cases hconnect : s.connect.1 with
  | error e' =>
    simp only [hconnect] at live
    obtain ⟨hopen, hbound⟩ := live
    exact ⟨LawfulTransport.isOpen_connect_error s.link e' hconnect hopen, hbound⟩
  | ok _ =>
    simp only [hconnect] at missed live
    cases hanswer : (s.connect.2.acquire false true).1 with
    | ok b => simp [hanswer] at missed
    | error e' =>
      simp only [hanswer] at live
      obtain ⟨_, b, hbinding⟩ := live
      rw [Session.binding_acquire, hanswer] at hbinding
      cases hbinding

omit [LawfulTransport τ] in
/-- A probe is a discovery. -/
theorem Device.probe_discover (s : Session τ) (version : UInt32) :
    (Device.probe s version).2 = (Device.discover s version).2 ∧
      (!(Device.probe s version).1.isEmpty) = (Device.discover s version).1.toBool := by
  unfold Device.probe
  cases hfound : (Device.discover s version).1 with
  | error e => simp [hfound, Except.toBool]
  | ok i => simp [hfound, Except.toBool]

end RemotePad
