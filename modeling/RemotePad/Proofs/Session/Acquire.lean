import RemotePad.Proofs.Transport.Tapped
import RemotePad.Proofs.Wire.Response
import RemotePad.Transport.Scripted

/-!
# Asking for a pad

One datagram goes out, at most one comes in, and the pad that it tells of is bound if the answer
is acceptable.  Header and name of an answer are read from different bytes: the header from what
was received, the name from the whole buffer, so that an answer cut short in its name is still one.

* `answeredId`, `answeredFlags`, `Payload.nameLength` and `Payload.nameText`: the fields of an
  answer, in terms of its bytes.
* `Payload.firstComplaint`: what is wrong with an answer.  Nothing is wrong with an `Acceptable`
  one (`firstComplaint_eq_none_iff`).
* `ofResponse_accepts`: an answer is read as the binding that it tells of, or refused for the
  first complaint about it.
* `acquire_of_unsent`, `acquire_of_unanswered` and `acquire_of_answered` say all that asking can
  come to, `calls_acquire` what is done with the transport.
* `acquire_accepts`: both together, over any transport.
-/

namespace RemotePad

namespace Wire

/-! ## Fields of an answer -/

/-- The number in the four bytes from a place on, lowest byte first.  Bytes that are not there
count as zeros. -/
def wordAt (bytes : List UInt8) (place : Nat) : UInt32 :=
  UInt32.ofNat
    ((bytes.getD place 0).toNat + 256 * (bytes.getD (place + 1) 0).toNat +
      65536 * (bytes.getD (place + 2) 0).toNat + 16777216 * (bytes.getD (place + 3) 0).toNat)

/-- The id in an answer. -/
def answeredId (bytes : List UInt8) : UInt32 :=
  wordAt bytes 1

/-- The flags in an answer. -/
def answeredFlags (bytes : List UInt8) : UInt8 :=
  bytes.getD 5 0

namespace Payload

/-- The length that is announced for the name. -/
def nameLength (p : Payload) : Int32 :=
  (wordAt p.bytes 6).toInt32

/-- The length of the name is one that fits behind it. -/
def NameFits (p : Payload) : Prop :=
  0 ≤ p.nameLength.toInt ∧ p.nameLength.toInt ≤ 54

instance (p : Payload) : Decidable p.NameFits :=
  inferInstanceAs (Decidable (_ ∧ _))

/-- The text that the bytes of the name are read as, with the NUL characters at its end.  Bytes
of the name that were not received are zeros. -/
def nameText (p : Payload) : List Char :=
  Utf8.decodeLossy
    (((p.bytes ++ List.replicate 64 0).drop 10).take p.nameLength.toInt.toNat)

end Payload

/-- The bytes of a number, read from the lowest one on. -/
theorem ofNat_valueLE (b₀ b₁ b₂ b₃ : UInt8) (rest : List UInt8) :
    UInt32.ofNat (valueLE [b₀, b₁, b₂, b₃]) = wordAt (b₀ :: b₁ :: b₂ :: b₃ :: rest) 0 := by
  simp only [wordAt, valueLE, List.getD_cons_zero, List.getD_cons_succ, Nat.zero_add]
  congr 1
  omega

theorem wordAt_drop (bytes : List UInt8) (n place : Nat) :
    wordAt (bytes.drop n) place = wordAt bytes (n + place) := by
  simp only [wordAt, List.getD_eq_getElem?_getD, List.getElem?_drop, Nat.add_assoc]

theorem announcedLength_of_four {bytes : List UInt8} (four : 4 ≤ bytes.length) :
    announcedLength bytes = .ok (wordAt bytes 0).toInt32 := by
  rcases bytes with _ | ⟨n₀, _ | ⟨n₁, _ | ⟨n₂, _ | ⟨n₃, rest⟩⟩⟩⟩
  iterate 4 simp at four
  exact congrArg (fun length => Except.ok length.toInt32) (ofNat_valueLE n₀ n₁ n₂ n₃ rest)

/-! ## The whole buffer -/

namespace Payload

/-- What was not received is zero. -/
theorem getD_padded (p : Payload) (place : Nat) :
    p.padded.bytes.getD place 0 = p.bytes.getD place 0 := by
  rw [padded, Datagram.bytes_ofBytes p.length_le]
  simp only [List.getD_eq_getElem?_getD, List.getElem?_append, List.getElem?_replicate]
  split
  · rfl
  · next beyond =>
    rw [List.getElem?_eq_none (Nat.not_lt.mp beyond)]
    split <;> rfl

theorem wordAt_padded (p : Payload) (place : Nat) :
    wordAt p.padded.bytes place = wordAt p.bytes place := by
  simp only [wordAt, getD_padded]

/-- A name that fits lies inside of the buffer. -/
theorem take_drop_padded (p : Payload) {n : Nat} (fits : n ≤ 54) :
    (p.padded.bytes.drop 10).take n = ((p.bytes ++ List.replicate 64 0).drop 10).take n := by
  show (((p.bytes ++ List.replicate 64 0).take 64).drop 10).take n = _
  rw [List.drop_take, List.take_take, Nat.min_eq_left fits]

end Payload

namespace GamepadResponse

theorem decode_of_mismatch {b : List UInt8} (nonempty : b ≠ []) (other : b.head? ≠ some 8) :
    decode b = .error (.unexpectedCode 8 (b.headD 0)) := by
  cases b with
  | nil => exact absurd rfl nonempty
  | cons code rest =>
    have hcode : code ≠ 8 := fun h => other (congrArg some h)
    exact if_pos hcode

theorem decode_of_short {b : List UInt8} (code : b.head? = some 8) (short : b.length < 6) :
    decode b = .error .truncated := by
  rcases b with _ | ⟨c, _ | ⟨i₀, _ | ⟨i₁, _ | ⟨i₂, _ | ⟨i₃, _ | ⟨flags, rest⟩⟩⟩⟩⟩⟩
  · cases code
  -- the bytes end inside id and flags
  iterate 5
    obtain rfl := Option.some.inj code
    rfl
  simp only [List.length_cons] at short
  omega

theorem decode_of_header {b : List UInt8} (code : b.head? = some 8) (header : 6 ≤ b.length) :
    decode b = .ok ⟨answeredId b, ⟨answeredFlags b⟩⟩ := by
  rcases b with _ | ⟨c, _ | ⟨i₀, _ | ⟨i₁, _ | ⟨i₂, _ | ⟨i₃, _ | ⟨flags, rest⟩⟩⟩⟩⟩⟩
  iterate 6 simp at header
  obtain rfl := Option.some.inj code
  exact congrArg (fun id => Except.ok (mk id ⟨flags⟩)) (ofNat_valueLE i₀ i₁ i₂ i₃ [flags])

end GamepadResponse

/-- The buffer is never too short for a name whose length fits, so nothing but the length can be
wrong with one. -/
theorem GamepadResponse.decodeName_padded (p : Payload) :
    decodeName p.padded.bytes =
      if p.NameFits then .ok (String.ofList (trimTrailingNul p.nameText))
      else .error (.nameLength p.nameLength 54) := by
  have hlength : announcedLength (p.padded.bytes.drop 6) = .ok p.nameLength := by
    rw [announcedLength_of_four (by rw [List.length_drop, p.padded.length_eq]; decide), wordAt_drop,
      p.wordAt_padded]
    rfl
  have hmax : (maxNameLength : Int) = 54 := rfl
  unfold decodeName
  simp only [hlength, hmax]
  by_cases hfits : p.NameFits
  · obtain ⟨hnonneg, hle⟩ := hfits
    have hwhole : ((p.padded.bytes.drop nameOffset).take p.nameLength.toInt.toNat).length =
        p.nameLength.toInt.toNat := by
      rw [List.length_take, List.length_drop, p.padded.length_eq, datagramLength, nameOffset]
      omega
    rw [if_neg (by omega), if_neg (by rw [hwhole]; exact Nat.lt_irrefl _),
      if_pos ⟨hnonneg, hle⟩, nameOffset, p.take_drop_padded (by omega), Payload.nameText]
  · have hmisfit : p.nameLength.toInt < 0 ∨ 54 < p.nameLength.toInt := by
      unfold Payload.NameFits at hfits
      omega
    rw [if_pos hmisfit, if_neg hfits]
    rfl

theorem LayoutFlags.isCompatible_mk (bits : UInt8) :
    (mk bits).isCompatible = decide (bits &&& 0x08 = 0x08) := rfl

/-! ## Complaints -/

namespace Payload

/-- What is wrong with an answer: the first thing, in the order in which they are looked for. -/
def firstComplaint (p : Payload) (wantName : Bool) : Option SessionError :=
  if p.bytes = [] then some (.malformed .truncated)
  else if p.bytes.head? ≠ some 8 then some (.protocolMismatch 8 (p.bytes.headD 0))
  else if p.bytes.length < 6 then some (.malformed .truncated)
  else if answeredId p.bytes = 0 then some .noDevice
  else if answeredFlags p.bytes &&& 0x08 ≠ 0x08 then
    some (.incompatibleTransport (answeredId p.bytes) (answeredFlags p.bytes))
  else if wantName ∧ ¬ p.NameFits then
    some (.malformed (.nameLength p.nameLength 54))
  else none

/-- An answer that tells of a pad. -/
structure Acceptable (p : Payload) (wantName : Bool) : Prop where
  header : 6 ≤ p.bytes.length
  code : p.bytes.head? = some 8
  pad : answeredId p.bytes ≠ 0
  reachable : answeredFlags p.bytes &&& 0x08 = 0x08
  name : wantName = true → p.NameFits

theorem firstComplaint_eq_none_iff (p : Payload) (wantName : Bool) :
    p.firstComplaint wantName = none ↔ p.Acceptable wantName := by
  constructor
  · intro h
    unfold firstComplaint at h
    split_ifs at h with hempty hcode hshort hpad hreachable hname
    exact
      { header := Nat.not_lt.mp hshort
        code := not_not.mp hcode
        pad := hpad
        reachable := not_not.mp hreachable
        name := fun hwant => not_not.mp fun hmisfit => hname ⟨hwant, hmisfit⟩ }
  · rintro ⟨hheader, hcode, hpad, hreachable, hname⟩
    have hne : p.bytes ≠ [] := by
      intro hnil
      rw [hnil] at hcode
      cases hcode
    have hquiet : ¬ (wantName = true ∧ ¬ p.NameFits) :=
      fun ⟨hwant, hmisfit⟩ => hmisfit (hname hwant)
    rw [firstComplaint, if_neg hne, if_neg (not_not.mpr hcode), if_neg (Nat.not_lt.mpr hheader),
      if_neg hpad, if_neg (not_not.mpr hreachable), if_neg hquiet]

end Payload

end Wire

open Wire

/-! ## Reading an answer -/

/-- The binding to the pad that an answer tells of. -/
structure Binding.ToldBy (b : Binding) (p : Payload) (wantName : Bool) : Prop where
  id : b.id.value = answeredId p.bytes
  flags : b.flags.bits = answeredFlags p.bytes
  named : wantName = true → ∃ name, b.name = some name ∧ Trimmed p.nameText name.toList
  unnamed : wantName = false → b.name = none

namespace Binding

/-- An acceptable answer is read as the binding that it tells of. -/
theorem ofResponse_of_acceptable {p : Payload} {wantName : Bool} (h : p.Acceptable wantName) :
    ∃ b, ofResponse p wantName = .ok b ∧ b.ToldBy p wantName := by
  simp only [ofResponse, GamepadResponse.decode_of_header h.code h.header, GamepadId.ofValue?,
    h.pad, dite_false, LayoutFlags.isCompatible_mk, h.reachable, decide_true, Bool.not_true,
    Bool.false_eq_true, if_false]
  cases wantName with
  | false => exact ⟨_, rfl, rfl, rfl, nofun, fun _ => rfl⟩
  | true =>
    simp only [if_true, GamepadResponse.decodeName_padded, h.name rfl]
    refine ⟨_, rfl, rfl, rfl, fun _ => ⟨_, rfl, ?_⟩, nofun⟩
    rw [String.toList_ofList]
    exact trimmed_trimTrailingNul _

/-- Any other is refused for the first complaint about it. -/
theorem ofResponse_of_complaint {p : Payload} {wantName : Bool} {e : SessionError}
    (h : p.firstComplaint wantName = some e) : ofResponse p wantName = .error e := by
  unfold Payload.firstComplaint at h
  split_ifs at h with hempty hcode hshort hpad hreachable hname <;>
    obtain rfl := Option.some.inj h
  · simp only [ofResponse, hempty]
    rfl
  · simp only [ofResponse, GamepadResponse.decode_of_mismatch hempty hcode]
    rfl
  · simp only [ofResponse, GamepadResponse.decode_of_short (not_not.mp hcode) hshort]
    rfl
  -- the header can be read
  all_goals
    have hread := GamepadResponse.decode_of_header (not_not.mp hcode) (Nat.not_lt.mp hshort)
    simp only [ofResponse, hread, GamepadId.ofValue?, LayoutFlags.isCompatible_mk]
  · simp only [hpad, dite_true]
  · simp only [hpad, dite_false, hreachable, decide_false, Bool.not_false, if_true]
  · obtain ⟨hwant, hmisfit⟩ := hname
    simp only [hpad, dite_false, not_not.mp hreachable, decide_true, Bool.not_true,
      Bool.false_eq_true, if_false, hwant, if_true, GamepadResponse.decodeName_padded, hmisfit]
    rfl

/-- An answer is accepted exactly when it is acceptable, and what it is not accepted for is the
first complaint about it. -/
theorem ofResponse_accepts (p : Payload) (wantName : Bool) :
    ((∃ b, ofResponse p wantName = .ok b) ↔ p.Acceptable wantName) ∧
    (∀ b, ofResponse p wantName = .ok b → b.ToldBy p wantName) ∧
    ∀ e, ofResponse p wantName = .error e ↔ p.firstComplaint wantName = some e := by
  rw [← p.firstComplaint_eq_none_iff wantName]
  cases hfirst : p.firstComplaint wantName with
  | none =>
    obtain ⟨b, hread, htold⟩ :=
      ofResponse_of_acceptable ((p.firstComplaint_eq_none_iff wantName).mp hfirst)
    rw [hread]
    refine ⟨⟨fun _ => rfl, fun _ => ⟨b, rfl⟩⟩, ?_, fun e => ⟨nofun, nofun⟩⟩
    rintro b' hb'
    obtain rfl := Except.ok.inj hb'
    exact htold
  | some e =>
    rw [ofResponse_of_complaint hfirst]
    refine ⟨⟨nofun, nofun⟩, nofun, fun e' => ?_⟩
    rw [Except.error.injEq, Option.some.injEq]

/-- An answer that is cut short in its name. -/
example :
    ofResponse (.ofBytes [8, 7, 0, 0, 0, 0x0a, 3, 0, 0, 0, 0x61]) true =
      .ok ⟨⟨7, by decide⟩, ⟨0x0a⟩, some "a"⟩ := by rfl

end Binding

/-! ## What is done with the transport -/

namespace Session

variable {τ : Type} [Transport τ]

/-- A request that cannot be sent. -/
theorem acquire_of_unsent {s : Session τ} {notify : Bool} {e : TransportError}
    (hsent : (Transport.send s.link (getGamepadRequest notify)).1 = .error e) (wantName : Bool) :
    s.acquire notify wantName =
      (.error (.transport e),
        { s with link := (Transport.send s.link (getGamepadRequest notify)).2, binding := none }) := by
  simp only [acquire, request, hsent]

/-- A request that nothing comes back for. -/
theorem acquire_of_unanswered {s : Session τ} {notify : Bool} {e : TransportError}
    (hsent : (Transport.send s.link (getGamepadRequest notify)).1 = .ok ())
    (hreceived : (Transport.receive (Transport.send s.link (getGamepadRequest notify)).2).1 =
      .error e) (wantName : Bool) :
    s.acquire notify wantName =
      (.error (.transport e),
        { s with
          link := (Transport.receive (Transport.send s.link (getGamepadRequest notify)).2).2
          binding := none }) := by
  simp only [acquire, request, hsent, hreceived]

/-- A request that is answered. -/
theorem acquire_of_answered {s : Session τ} {notify : Bool} {p : Payload}
    (hsent : (Transport.send s.link (getGamepadRequest notify)).1 = .ok ())
    (hreceived : (Transport.receive (Transport.send s.link (getGamepadRequest notify)).2).1 =
      .ok p) (wantName : Bool) :
    s.acquire notify wantName =
      (Binding.ofResponse p wantName,
        { s with
          link := (Transport.receive (Transport.send s.link (getGamepadRequest notify)).2).2
          binding := (Binding.ofResponse p wantName).toOption }) := by
  simp only [acquire, request, hsent, hreceived]
  cases Binding.ofResponse p wantName <;> rfl

/-- After a request that was not sent, no answer is waited for. -/
theorem link_acquire (s : Session τ) (notify wantName : Bool) :
    (s.acquire notify wantName).2.link =
      if (Transport.send s.link (getGamepadRequest notify)).1.toBool then
        (Transport.receive (Transport.send s.link (getGamepadRequest notify)).2).2
      else (Transport.send s.link (getGamepadRequest notify)).2 := by
  cases hsent : (Transport.send s.link (getGamepadRequest notify)).1 with
  | error e =>
    rw [acquire_of_unsent hsent]
    rfl
  | ok _ =>
    cases hreceived :
        (Transport.receive (Transport.send s.link (getGamepadRequest notify)).2).1 with
    | error e =>
      rw [acquire_of_unanswered hsent hreceived]
      rfl
    | ok p =>
      rw [acquire_of_answered hsent hreceived]
      rfl

/-- The request is the one datagram that goes out.  One is taken in after it, or none when it was
not sent. -/
theorem calls_acquire (s : Session (Tapped τ)) (notify wantName : Bool) :
    (s.acquire notify wantName).2.link.calls =
      s.link.calls ++ .send (getGamepadRequest notify) ::
        if (Transport.send s.link.link (getGamepadRequest notify)).1.toBool then [.receive]
        else [] := by
  rw [link_acquire]
  have hsent : (Transport.send s.link (getGamepadRequest notify)).1 =
      (Transport.send s.link.link (getGamepadRequest notify)).1 := rfl
  rw [hsent]
  split
  · exact List.append_assoc _ _ _
  · rfl

/-- A scripted peer loses the first item of its inbox, if the request was sent. -/
theorem inbox_acquire (s : Session ScriptedPeer) (notify wantName : Bool) :
    (s.acquire notify wantName).2.link.inbox =
      if (Transport.send s.link (getGamepadRequest notify)).1.toBool then s.link.inbox.drop 1
      else s.link.inbox := by
  have hinbox : (Transport.send s.link (getGamepadRequest notify)).2.inbox = s.link.inbox := by
    simp only [Transport.send, ScriptedPeer.send]
    split
    · split <;> rfl
    · rfl
  rw [link_acquire]
  split
  · next hsent =>
    have hopen : (Transport.send s.link (getGamepadRequest notify)).2.open? = true := by
      simp only [Transport.send, ScriptedPeer.send] at hsent ⊢
      split at hsent
      · next hopen =>
        rw [if_pos hopen]
        split <;> exact hopen
      · cases hsent
    rw [← hinbox]
    simp only [Transport.receive, ScriptedPeer.receive, hopen, if_true]
    split
    · next hnone =>
      rw [hnone]
      rfl
    · next hsome =>
      rw [hsome]
      rfl
  · exact hinbox

end Session

/-! ## Asking -/

theorem bytes_getGamepadRequest (notify : Bool) :
    (getGamepadRequest notify).bytes =
      8 :: 0 :: (if notify then 1 else 0) :: List.replicate 61 0 := by
  cases notify <;> rfl

/-- What comes of asking for a pad.

* One datagram is handed to the transport, with the code 8, a zero, whether reports are wanted,
  and zeros.  After it one is taken in, or none if the first was not sent; a record of the calls
  shows this of every transport, and the inbox of a scripted peer shortens accordingly.
* If sending or receiving fails, so does the request, with that fault.
* An answer is accepted exactly when it is `Acceptable`.  The binding is the one that it tells of,
  and an answer that is not acceptable is refused for the first complaint about it. -/
theorem acquire_accepts {τ : Type} [Transport τ] (s : Session τ) (notify wantName : Bool) :
    let request := getGamepadRequest notify
    let sent := Transport.send s.link request
    let received := Transport.receive sent.2
    let asked := s.acquire notify wantName
    request.bytes = 8 :: 0 :: (if notify then 1 else 0) :: List.replicate 61 0 ∧
    (∀ calls, let tapped := (s.map fun link => Tapped.mk link calls).acquire notify wantName
      tapped.1 = asked.1 ∧ tapped.2.map Tapped.link = asked.2 ∧
      tapped.2.link.calls = calls ++ .send request :: if sent.1.toBool then [.receive] else []) ∧
    (∀ peer : Session ScriptedPeer, (peer.acquire notify wantName).2.link.inbox =
      if (Transport.send peer.link request).1.toBool then peer.link.inbox.drop 1
      else peer.link.inbox) ∧
    match sent.1 with
    | .error e => asked.1 = .error (.transport e)
    | .ok () =>
      match received.1 with
      | .error e => asked.1 = .error (.transport e)
      | .ok p =>
        ((∃ b, asked.1 = .ok b) ↔ p.Acceptable wantName) ∧
        (∀ b, asked.1 = .ok b → b.ToldBy p wantName) ∧
        ∀ e, asked.1 = .error e ↔ p.firstComplaint wantName = some e := by
  intro request sent received asked
  refine ⟨bytes_getGamepadRequest notify, ?calls, ?inbox, ?answer⟩
  case calls =>
    intro calls tapped
    have hview := Tapped.view.session_acquire (s.map fun link => Tapped.mk link calls)
      notify wantName
    exact ⟨(congrArg Prod.fst hview).symm, (congrArg Prod.snd hview).symm,
      Session.calls_acquire _ notify wantName⟩
  case inbox =>
    intro peer
    exact peer.inbox_acquire notify wantName
  case answer =>
    split
    · next e hsent => exact congrArg Prod.fst (Session.acquire_of_unsent hsent wantName)
    · next hsent =>
      split
      · next e hreceived =>
        exact congrArg Prod.fst (Session.acquire_of_unanswered hsent hreceived wantName)
      · next p hreceived =>
        have hanswer : asked.1 = Binding.ofResponse p wantName :=
          congrArg Prod.fst (Session.acquire_of_answered hsent hreceived wantName)
        rw [hanswer]
        exact Binding.ofResponse_accepts p wantName

end RemotePad
