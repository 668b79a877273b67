import RemotePad.Manager
import RemotePad.Proofs.Device.Lifecycle

/-!
# What a manager does to all its devices

A manager acquires, reads and closes its devices one after the other over one session.
What each device does to the session is known from `Device.acquire_cases`, `read_frame`
and `close_cases`; here it is put together along the list of devices.
-/

namespace RemotePad

namespace Manager

variable {τ : Type} [Transport τ]

/-- Acquiring devices in order changes nothing, or leaves a live session, or fails for one
that is bound. -/
theorem acquireEach_cases [LawfulTransport τ] (ds : List Device) (s : Shared τ) :
    let r := acquireEach ds s
    r.2 = (ds, s) ∨ r.2.2.session.Live ∨
      ∃ (n : Nat) (d : Device), ds[n]? = some d ∧ d.lifecycle = .bound ∧ r.2.1[n]? = some d := by
  induction ds generalizing s with
  | nil => exact Or.inl rfl
  | cons d rest ih =>
    simp only [acquireEach]
    rcases d.acquire_cases s with
      ⟨_, hsame⟩ | ⟨_, b, _, _, hopen, hbinding, _⟩ | ⟨hbound, _, hdevice, _⟩
    · rw [hsame]
      rcases ih s with hrest | hlive | ⟨n, d', hn, hbound, hn'⟩
      · exact Or.inl (by rw [hrest])
      · exact Or.inr (Or.inl hlive)
      · exact Or.inr (Or.inr ⟨n + 1, d', hn, hbound, hn'⟩)
    · -- the first device made the session live; only a later failure can end that
      rcases ih (d.acquire s).2.2 with hrest | hlive | ⟨n, d', hn, hbound, hn'⟩
      · exact Or.inr (Or.inl (by rw [hrest]; exact ⟨hopen, b, hbinding⟩))
      · exact Or.inr (Or.inl hlive)
      · exact Or.inr (Or.inr ⟨n + 1, d', hn, hbound, hn'⟩)
    · exact Or.inr (Or.inr ⟨0, d, rfl, hbound, by rw [hdevice]; rfl⟩)

/-- A session that is live after devices were acquired in order was live before, or one of
the devices became acquired. -/
theorem acquireEach_source [LawfulTransport τ] (ds : List Device) (s : Shared τ) :
    let r := acquireEach ds s
    r.2.2.session.Live → s.session.Live ∨
      ∃ (n : Nat) (d d' : Device), ds[n]? = some d ∧ d.lifecycle = .bound ∧
        r.2.1[n]? = some d' ∧ d'.lifecycle = .acquired := by
  induction ds generalizing s with
  | nil => exact Or.inl
  | cons d rest ih =>
    intro r hlive
    rcases ih (d.acquire s).2.2 hlive with hfirst | ⟨n, d₁, d₂, hn, hbound, hn', acquired⟩
    · rcases d.acquire_cases s with ⟨_, hsame⟩ | ⟨hbound, b, _, hdevice, _⟩ | ⟨_, _, _, hsession, _⟩
      · rw [hsame] at hfirst
        exact Or.inl hfirst
      · exact Or.inr ⟨0, d, _, rfl, hbound, rfl, by rw [hdevice]⟩
      · exact absurd hfirst (Session.not_live (hsession.imp_right fun h => h.2.1))
    · exact Or.inr ⟨n + 1, d₁, d₂, hn, hbound, hn', acquired⟩

/-- Reading devices in order keeps all stages of life. -/
theorem stages_readEach (ds : List Device) (s : Shared τ) :
    (readEach ds s).2.1.map Device.lifecycle = ds.map Device.lifecycle := by
  induction ds generalizing s with
  | nil => rfl
  | cons d rest ih =>
    obtain ⟨t, hdevice⟩ := (d.read_keeps s).1
    simp only [readEach, List.map_cons, ih, hdevice]

/-- Reading devices in order keeps the transport, the binding and all stages of life. -/
theorem readEach_frame [LawfulTransport τ] (ds : List Device) (s : Shared τ) :
    let r := readEach ds s
    r.2.2.session.isOpen = s.session.isOpen ∧ r.2.2.session.binding = s.session.binding ∧
      r.2.1.map Device.lifecycle = ds.map Device.lifecycle := by
  induction ds generalizing s with
  | nil => exact ⟨rfl, rfl, rfl⟩
  | cons d rest ih =>
    obtain ⟨_, hopen, hbinding, _⟩ := d.read_frame s
    obtain ⟨hopens, hbindings, _⟩ := ih (d.read s).2.2
    exact ⟨hopens.trans hopen, hbindings.trans hbinding, stages_readEach (d :: rest) s⟩

/-- Each device in its place has a new tracker and is otherwise the same. -/
theorem device_readEach {ds : List Device} {s : Shared τ} {n : Nat} {d' : Device}
    (found : (readEach ds s).2.1[n]? = some d') :
    ∃ d t, ds[n]? = some d ∧ d' = { d with tracker := t } := by
  induction ds generalizing s n with
  | nil => cases found
  | cons d rest ih =>
    cases n with
    | zero =>
      obtain ⟨t, hdevice⟩ := (d.read_keeps s).1
      exact ⟨d, t, rfl, (Option.some.inj found).symm.trans hdevice⟩
    | succ n => exact ih found

/-- Closing devices in order waits forever, or changes nothing, or closes the transport
because one of them was acquired. -/
theorem closeEach_cases [LawfulTransport τ] (ds : List Device) (s : Shared τ) :
    closeEach ds s = none ∨ closeEach ds s = some s ∨
    ∃ s', closeEach ds s = some s' ∧ s'.session.isOpen = false ∧
      ∃ (n : Nat) (d : Device), ds[n]? = some d ∧ d.lifecycle = .acquired := by
  induction ds generalizing s with
  | nil => exact Or.inr (Or.inl rfl)
  | cons d rest ih =>
    -- a device that is not acquired leaves it all to the others
    have skip : (∃ d', d.close s = some (d', s)) →
        closeEach (d :: rest) s = none ∨ closeEach (d :: rest) s = some s ∨
        ∃ s', closeEach (d :: rest) s = some s' ∧ s'.session.isOpen = false ∧
          ∃ (n : Nat) (d₁ : Device), (d :: rest)[n]? = some d₁ ∧ d₁.lifecycle = .acquired := by
      rintro ⟨d', h⟩
      have hrest : closeEach (d :: rest) s = closeEach rest s := by
        rw [closeEach, h]
        rfl
      rw [hrest]
      rcases ih s with hnone | hsame | ⟨s', hs', hclosed, n, d₁, hn, acquired⟩
      · exact Or.inl hnone
      · exact Or.inr (Or.inl hsame)
      · exact Or.inr (Or.inr ⟨s', hs', hclosed, n + 1, d₁, hn, acquired⟩)
    rcases d.close_cases s with h | ⟨_, h⟩ | ⟨_, h⟩ | ⟨acquired, h⟩
    · exact Or.inl (by rw [closeEach, h]; rfl)
    · exact skip ⟨_, h⟩
    · exact skip ⟨_, h⟩
    · have hclosed := s.session.release.isOpen_disconnect
      have hrest : closeEach (d :: rest) s =
          closeEach rest ⟨s.session.release.disconnect, s.signals⟩ := by
        rw [closeEach, h]
        rfl
      rw [hrest]
      rcases ih ⟨s.session.release.disconnect, s.signals⟩ with
        hnone | hsame | ⟨s', hs', hclosed', _⟩
      · exact Or.inl hnone
      · exact Or.inr (Or.inr ⟨_, hsame, hclosed, 0, d, rfl, acquired⟩)
      · exact Or.inr (Or.inr ⟨s', hs', hclosed', 0, d, rfl, acquired⟩)

/-- A shutdown waits forever, or forgets the devices; then the session is as before, or
closed because one of them was acquired. -/
theorem shutdown_cases [LawfulTransport τ] (m : Manager) (s : Shared τ) :
    m.shutdown s = none ∨
    ∃ s', m.shutdown s = some ({ m with devices := [], queue := m.queue.clear }, s') ∧
      (s' = s ∨ s'.session.isOpen = false ∧
        ∃ (n : Nat) (d : Device), m.devices[n]? = some d ∧ d.lifecycle = .acquired) := by
  unfold shutdown
  rcases closeEach_cases m.devices s with h | h | ⟨s', h, hclosed, hacquired⟩
  · exact Or.inl (by rw [h]; rfl)
  · exact Or.inr ⟨s, by rw [h]; rfl, Or.inl rfl⟩
  · exact Or.inr ⟨s', by rw [h]; rfl, Or.inr ⟨hclosed, hacquired⟩⟩

end Manager

end RemotePad
