import RemotePad.Proofs.Device.Lifecycle

/-!
# Bindings and answers

A session is bound by what the server answers, and unbound by anything else that it says.

* `Session.sighted?` and `Session.granted?`: the pad that a search, or a request for reports,
  is answered with.
* `binding_discover` and `binding_requestInput` say exactly what is bound afterwards: the
  pad of the answer, unless there was nobody to ask because the transport did not open.
* `Follows`: what is bound after a number of answers is the last of them.  So it is after a
  search and after the acquisition of a device (`follows_discover`, `follows_acquire`).
-/

namespace RemotePad

variable {τ : Type} [Transport τ]

/-! ## Answers -/

namespace Session

/-- The transport opens when it is told to. -/
def opens (s : Session τ) : Bool :=
  s.connect.1.toBool

/-- The pad that a search is answered with. -/
def sighted? (s : Session τ) : Option Binding :=
  match s.connect.1 with
  | .ok () => (s.connect.2.acquire false true).1.toOption
  | .error _ => none

/-- The pad that a request for reports is answered with. -/
def granted? (s : Session τ) : Option Binding :=
  (Device.requestInput s).1.toOption

theorem opens_cases (s : Session τ) :
    (s.opens = true ∧ s.connect.1 = .ok ()) ∨
      (s.opens = false ∧ ∃ e, s.connect.1 = .error e) := by
  unfold opens
  cases s.connect.1 with
  | ok _ => exact Or.inl ⟨rfl, rfl⟩
  | error e => exact Or.inr ⟨rfl, e, rfl⟩

theorem sighted?_of_refused {s : Session τ} (refused : s.opens = false) : s.sighted? = none := by
  rcases s.opens_cases with ⟨hopens, _⟩ | ⟨_, e, hconnect⟩
  · rw [refused] at hopens
    cases hopens
  · simp only [sighted?, hconnect]

theorem granted?_of_refused {s : Session τ} (closed : s.isOpen = false)
    (refused : s.opens = false) : s.granted? = none := by
  rcases s.opens_cases with ⟨hopens, _⟩ | ⟨_, e, hconnect⟩
  · rw [refused] at hopens
    cases hopens
  · simp only [granted?, Device.requestInput, closed, Bool.false_eq_true, if_false, hconnect]
    rfl

end Session

namespace Device

theorem binding_discover (s : Session τ) (version : UInt32) :
    (discover s version).2.binding = if s.opens then s.sighted? else s.binding := by
  rcases s.opens_cases with ⟨hopens, hconnect⟩ | ⟨hopens, e, hconnect⟩
  · simp only [discover, Session.sighted?, hopens, hconnect, if_true, ← Session.binding_acquire]
    split <;> rfl
  · simp only [discover, hopens, hconnect, Bool.false_eq_true, if_false]
    rfl

/-- A search tells of a pad when one is the answer. -/
theorem toBool_discover (s : Session τ) (version : UInt32) :
    (discover s version).1.toBool = s.sighted?.isSome := by
  unfold discover Session.sighted?
  cases hconnect : s.connect.1 with
  | error e => simp only [hconnect]; rfl
  | ok _ =>
    simp only [hconnect]
    cases (s.connect.2.acquire false true).1 <;> rfl

theorem binding_requestInput (s : Session τ) :
    (requestInput s).2.binding = if s.isOpen || s.opens then s.granted? else s.binding := by
  have asked : ∀ s' : Session τ, (s'.acquire true false).2.binding =
      ((s'.acquire true false).1.mapError DeviceError.ofSession).toOption := by
    intro s'
    rw [Session.binding_acquire]
    cases (s'.acquire true false).1 <;> rfl
  unfold Session.granted? requestInput
  cases s.isOpen with
  | true => simp only [if_true, Bool.true_or, asked]
  | false =>
    rcases s.opens_cases with ⟨hopens, hconnect⟩ | ⟨hopens, e, hconnect⟩
    · simp only [Bool.false_eq_true, if_false, hconnect, hopens, Bool.or_true, if_true, asked]
    · simp only [Bool.false_eq_true, if_false, hconnect, hopens, Bool.or_false]
      rfl

/-- The pad that the acquisition of a device is answered with; only a bound device asks. -/
def granted? (d : Device) (s : Shared τ) : Option Binding :=
  if d.lifecycle = .bound then s.session.granted? else none

/-- A device that is answered adopts the layout of the answer and is acquired; any other
stays as it is. -/
theorem acquire_granted (d : Device) (s : Shared τ) :
    (∃ b, d.granted? s = some b ∧
      (d.acquire s).2.1 = { d.adopt b.layout with lifecycle := .acquired }) ∨
    (d.granted? s = none ∧ (d.acquire s).2.1 = d) := by
  unfold granted? Session.granted?
  cases hd : d.lifecycle with
  | closed => exact Or.inr ⟨rfl, by simp only [acquire, hd]⟩
  | acquired => exact Or.inr ⟨rfl, by simp only [acquire, hd]⟩
  | bound =>
    cases hasked : (requestInput s.session).1 with
    | error e => exact Or.inr ⟨rfl, by rw [acquire_of_missed hd hasked]⟩
    | ok b => exact Or.inl ⟨b, rfl, by rw [acquire_of_found hd hasked]⟩

theorem session_acquire_of_bound {d : Device} (s : Shared τ) (bound : d.lifecycle = .bound) :
    (d.acquire s).2.2.session = (requestInput s.session).2 := by
  simp only [acquire, bound]
  split <;> rfl

end Device

/-! ## The last answer -/

/-- What is bound after some answers is the last of them, or what was bound before there was
any.  It may also be that nothing is bound. -/
def Follows (before after : Option Binding) (answers : List Binding) : Prop :=
  ∀ b, after = some b → answers.getLast?.or before = some b

namespace Follows

theorem refl (x : Option Binding) : Follows x x [] := fun _ h => h

theorem cleared (x : Option Binding) (answers : List Binding) : Follows x none answers :=
  fun _ h => nomatch h

theorem of_eq {x y : Option Binding} (h : y = x) : Follows x y [] := by
  rw [h]
  exact .refl x

/-- The answer takes the place of the binding. -/
theorem answered (x answer : Option Binding) : Follows x answer answer.toList := by
  rintro b rfl
  rfl

theorem trans {x y z : Option Binding} {as bs : List Binding} (h : Follows x y as)
    (h' : Follows y z bs) : Follows x z (as ++ bs) := by
  intro b hz
  have hlast := h' b hz
  rw [List.getLast?_append]
  cases hbs : bs.getLast? with
  | some c => rwa [hbs] at hlast
  | none =>
    rw [hbs] at hlast
    exact h b hlast

end Follows

namespace Device

theorem follows_discover (s : Session τ) (version : UInt32) :
    Follows s.binding (discover s version).2.binding s.sighted?.toList := by
  rw [binding_discover]
  cases hopens : s.opens with
  | true => exact .answered _ _
  | false =>
    rw [Session.sighted?_of_refused hopens]
    exact .refl _

theorem follows_acquire (d : Device) (s : Shared τ) :
    Follows s.session.binding (d.acquire s).2.2.session.binding (d.granted? s).toList := by
  unfold granted?
  cases hd : d.lifecycle with
  | closed =>
    simp only [acquire, hd]
    exact .refl _
  | acquired =>
    simp only [acquire, hd]
    exact .refl _
  | bound =>
    rw [d.session_acquire_of_bound s hd, binding_requestInput, if_pos rfl]
    cases hopen : s.session.isOpen with
    | true => exact .answered _ _
    | false =>
      cases hopens : s.session.opens with
      | true => exact .answered _ _
      | false =>
        rw [Session.granted?_of_refused hopen hopens]
        exact .refl _

end Device

end RemotePad
