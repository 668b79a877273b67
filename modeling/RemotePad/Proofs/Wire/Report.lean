import RemotePad.Proofs.Wire.Numbers
import RemotePad.Wire.Report

/-!
# State reports on the wire

A state report is nineteen bytes long, and the bytes of a datagram after them are zero when
it is written and have no meaning when it is read.

* `StateReport.Refused` lists what is wrong with bytes that hold no report: the code is
  looked at first, then the kind, and the length of the rest last.
* `decodeBody_cases`: seventeen bytes after code and kind are the fields of a report, fewer
  are too few.
* `decode_cases`: any bytes hold the report that they are the beginning of, or are refused.
* `report_wire_format`: reading gives back what was written, from every cut of the datagram
  that holds the nineteen bytes; it succeeds on nothing else, and every failure has its cause.
-/

namespace RemotePad.Wire

namespace StateReport

/-- What is wrong with bytes that hold no report. -/
inductive Refused : List UInt8 → DecodeError → Prop where
  | empty : Refused [] .truncated
  | code {c : UInt8} {rest : List UInt8} (other : c ≠ 9) :
      Refused (c :: rest) (.unexpectedCode 9 c)
  | codeAlone : Refused [9] .truncated
  | subtype {k : UInt8} {rest : List UInt8} (other : k ≠ 1) :
      Refused (9 :: k :: rest) (.unexpectedSubtype k)
  | short {rest : List UInt8} (few : rest.length < 17) : Refused (9 :: 1 :: rest) .truncated

/-! ## Stick positions -/

theorem stickValue_stickBytes (v : Int16) :
    (UInt16.ofNat (valueLE (stickBytes v))).toInt16 = v := by
  rw [stickBytes, ofNat_valueLE_bytesLE16, Int16.toInt16_toUInt16]

theorem stickBytes_stickValue (b₀ b₁ : UInt8) : stickBytes (stickValue b₀ b₁) = [b₀, b₁] := by
  rw [stickBytes, stickValue, UInt16.toUInt16_toInt16]
  exact bytesLE_ofNat_valueLE16 rfl

/-! ## Fields -/

theorem length_fields (r : StateReport) : r.fields.length = 19 := by
  simp [fields, stickBytes]

/-- The fields are read back, whatever comes after them. -/
theorem decode_fields (r : StateReport) (rest : List UInt8) :
    decode (r.fields ++ rest) = .ok r := by
  have hread : decode (r.fields ++ rest) =
      .ok
        { id := UInt32.ofNat (valueLE (bytesLE 4 r.id.toNat))
          sample :=
            { buttons := UInt16.ofNat (valueLE (bytesLE 2 r.sample.buttons.toNat))
              hat := r.sample.hat.toUInt8.toInt8
              lx := (UInt16.ofNat (valueLE (stickBytes r.sample.lx))).toInt16
              ly := (UInt16.ofNat (valueLE (stickBytes r.sample.ly))).toInt16
              rx := (UInt16.ofNat (valueLE (stickBytes r.sample.rx))).toInt16
              ry := (UInt16.ofNat (valueLE (stickBytes r.sample.ry))).toInt16
              lz := r.sample.lz
              rz := r.sample.rz } } := rfl
  simp only [hread, ofNat_valueLE_bytesLE32, ofNat_valueLE_bytesLE16, stickValue_stickBytes,
    Int8.toInt8_toUInt8]

/-- Seventeen bytes are the fields of a report, fewer are too few. -/
theorem decodeBody_cases (body : List UInt8) :
    (17 ≤ body.length ∧ ∃ r, decodeBody body = .ok r ∧ r.fields = 9 :: 1 :: body.take 17) ∨
      (body.length < 17 ∧ decodeBody body = .error .truncated) := by
  rcases body with _ | ⟨i₀, _ | ⟨i₁, _ | ⟨i₂, _ | ⟨i₃, _ | ⟨m₀, _ | ⟨m₁, _ | ⟨hat, _ | ⟨a₀,
    _ | ⟨a₁, _ | ⟨b₀, _ | ⟨b₁, _ | ⟨c₀, _ | ⟨c₁, _ | ⟨d₀, _ | ⟨d₁, _ | ⟨lz, _ | ⟨rz,
    rest⟩⟩⟩⟩⟩⟩⟩⟩⟩⟩⟩⟩⟩⟩⟩⟩⟩
  -- the bytes end inside one of the seventeen
  iterate 17 exact Or.inr ⟨by simp, rfl⟩
  refine Or.inl ⟨by simp, _, rfl, ?_⟩
  have hid : bytesLE 4 (UInt32.ofNat (valueLE [i₀, i₁, i₂, i₃])).toNat = [i₀, i₁, i₂, i₃] :=
    bytesLE_ofNat_valueLE32 rfl
  have hbuttons : bytesLE 2 (UInt16.ofNat (valueLE [m₀, m₁])).toNat = [m₀, m₁] :=
    bytesLE_ofNat_valueLE16 rfl
  simp only [fields, hid, hbuttons, stickBytes_stickValue, UInt8.toUInt8_toInt8]
  rfl

/-! ## Reports -/

/-- Bytes hold the report that they are the beginning of, or are refused. -/
theorem decode_cases (b : List UInt8) :
    (19 ≤ b.length ∧ b[0]? = some 9 ∧ b[1]? = some 1 ∧
      ∃ r, decode b = .ok r ∧ r.fields = b.take 19) ∨
    ∃ e, decode b = .error e ∧ Refused b e := by
  rcases b with _ | ⟨code, rest⟩
  · exact Or.inr ⟨_, rfl, .empty⟩
  by_cases hcode : code = 9
  · subst hcode
    rcases rest with _ | ⟨subtype, body⟩
    · exact Or.inr ⟨_, rfl, .codeAlone⟩
    by_cases hsubtype : subtype = 1
    · subst hsubtype
      rcases decodeBody_cases body with ⟨hlong, r, hread, hfields⟩ | ⟨hshort, hread⟩
      · exact Or.inl ⟨Nat.add_le_add_right hlong 2, rfl, rfl, r, hread, hfields⟩
      · exact Or.inr ⟨_, hread, .short hshort⟩
    · exact Or.inr ⟨_, if_pos hsubtype, .subtype hsubtype⟩
  · exact Or.inr ⟨_, if_pos hcode, .code hcode⟩

/-- What is refused is refused for that cause. -/
theorem decode_of_refused {b : List UInt8} {e : DecodeError} (refused : Refused b e) :
    decode b = .error e := by
  cases refused with
  | empty | codeAlone => rfl
  | code other => exact if_pos other
  | subtype other => exact if_pos other
  | @short rest few =>
    rcases decodeBody_cases rest with ⟨hlong, _⟩ | ⟨_, hread⟩
    · omega
    · exact hread

theorem decode_eq_error_iff {b : List UInt8} {e : DecodeError} :
    decode b = .error e ↔ Refused b e := by
  refine ⟨fun h => ?_, decode_of_refused⟩
  rcases decode_cases b with ⟨_, _, _, r, hread, _⟩ | ⟨e', hread, hrefused⟩ <;> rw [hread] at h <;>
    cases h
  exact hrefused

/-- Nothing is wrong with nineteen bytes that begin with code and kind. -/
theorem not_refused {b : List UInt8} (long : 19 ≤ b.length) (code : b[0]? = some 9)
    (subtype : b[1]? = some 1) (e : DecodeError) : ¬ Refused b e := by
  intro refused
  cases refused with
  | empty => cases code
  | code other => exact other (Option.some.inj code)
  | codeAlone => cases subtype
  | subtype other => exact other (Option.some.inj subtype)
  | short few =>
    simp only [List.length_cons] at long
    omega

/-- Nothing after the first nineteen bytes makes good what is wrong in them. -/
theorem Refused.take {b : List UInt8} {e : DecodeError} (refused : Refused b e) :
    Refused (b.take 19) e := by
  cases refused with
  | empty => exact .empty
  | code other => exact .code other
  | codeAlone => exact .codeAlone
  | subtype other => exact .subtype other
  | @short rest few => exact .short (by rw [List.length_take]; omega)

end StateReport

/-! ## The format -/

/-- The wire format of state reports, in both directions.  Every report is read back from
every beginning of its datagram with at least nineteen bytes.  Bytes hold a report exactly
when there are nineteen of them with the code 9 and the kind 1 in front; the report written
again gives these nineteen and zeros after them, and what comes later in the bytes never
matters.  All other bytes are refused for the cause that `StateReport.Refused` gives. -/
theorem report_wire_format :
    (∀ (r : StateReport) (k : Nat), 19 ≤ k → k ≤ 64 →
      StateReport.decode (r.encode.bytes.take k) = .ok r) ∧
    ∀ b : List UInt8,
      ((∃ r, StateReport.decode b = .ok r) ↔
        19 ≤ b.length ∧ b[0]? = some 9 ∧ b[1]? = some 1) ∧
      (∀ r, StateReport.decode b = .ok r →
        r.encode.bytes = b.take 19 ++ List.replicate 45 0) ∧
      StateReport.decode (b.take 19) = StateReport.decode b ∧
      ∀ e, StateReport.decode b = .error e ↔ StateReport.Refused b e := by
  constructor
  · intro r k long short
    have hfits : r.fields.length ≤ k := by rwa [r.length_fields]
    rw [StateReport.encode, Datagram.take_bytes_ofBytes hfits short]
    exact r.decode_fields _
  · intro b
    rcases StateReport.decode_cases b with
      ⟨hlong, hcode, hsubtype, r, hread, hfields⟩ | ⟨e, hread, hrefused⟩
    · refine ⟨⟨fun _ => ⟨hlong, hcode, hsubtype⟩, fun _ => ⟨r, hread⟩⟩, fun r' hread' => ?_, ?_,
        fun e => StateReport.decode_eq_error_iff⟩
      · obtain rfl : r = r' := Except.ok.inj (hread.symm.trans hread')
        have hfits : r.fields.length ≤ datagramLength := by rw [r.length_fields]; decide
        rw [StateReport.encode, Datagram.bytes_ofBytes hfits, r.length_fields, hfields]
        rfl
      · rw [hread, ← hfields, ← List.append_nil r.fields]
        exact r.decode_fields []
    · refine ⟨⟨fun ⟨r, hread'⟩ => ?_, fun ⟨hlong, hcode, hsubtype⟩ => ?_⟩, fun r hread' => ?_, ?_,
        fun e => StateReport.decode_eq_error_iff⟩
      · rw [hread] at hread'
        cases hread'
      · exact absurd hrefused (StateReport.not_refused hlong hcode hsubtype e)
      · rw [hread] at hread'
        cases hread'
      · rw [hread]
        exact StateReport.decode_of_refused hrefused.take

/-- A report with values at the ends of their ranges, cut after twenty bytes. -/
theorem report_wire_format_extremes :
    let r : StateReport :=
      { id := 0xfffffffe
        sample :=
          { buttons := 0x8001, hat := -1, lx := -32768, ly := 32767, rx := -1, ry := 256
            lz := 255, rz := 1 } }
    let b := r.encode.bytes.take 20
    (19 ≤ 20 ∧ 20 ≤ 64) ∧ StateReport.decode b = .ok r ∧
      r.encode.bytes = b.take 19 ++ List.replicate 45 0 := by
  intro r b
  obtain ⟨hcut, hbytes⟩ := report_wire_format
  have hread : StateReport.decode b = .ok r := hcut r 20 (by decide) (by decide)
  exact ⟨by decide, hread, (hbytes b).2.1 r hread⟩

end RemotePad.Wire
