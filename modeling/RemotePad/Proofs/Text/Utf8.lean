import RemotePad.Text.Utf8

/-!
# Reading encoded text

What becomes of the bytes of a text when they are read, whole or cut off somewhere.

* `Spells`: bytes take the machine to the end of one character.  The bytes of a character
  spell it (`spells_utf8EncodeChar`), and a beginning of them that is neither empty nor all
  of them reads as one replacement (`Spells.decodeLossy_cut`).
* `decodeLossy_encode`: the bytes of a text read as the text, and no fault is found in them
  (`decode?_encode`).
* `fitting n text` is what of a text fits into `n` bytes, in whole characters;
  `longestFit_fitting` says that it is the longest beginning that fits.
* `decodeLossy_take_encode`: the first `n` bytes of a text read as what fits, followed by one
  replacement where a character was cut.
-/

namespace RemotePad.Utf8

/-! ## Spelling a character -/

/-- What a byte does to the machine between characters or inside one. -/
def step : Option Partial → UInt8 → Verdict
  | none, b => start b
  | some p, b => extend p b

/-- The bytes take the machine to the end of a character. -/
inductive Spells : Option Partial → List UInt8 → Char → Prop where
  | last {at? : Option Partial} {b : UInt8} {c : Char} (ends : step at? b = .complete c) :
      Spells at? [b] c
  | next {at? : Option Partial} {b : UInt8} {p : Partial} {rest : List UInt8} {c : Char}
      (goesOn : step at? b = .unfinished p) (spells : Spells (some p) rest c) :
      Spells at? (b :: rest) c

section Steps

variable {at? : Option Partial} {b : UInt8}

theorem decodeLossyFrom_of_complete {c : Char} (h : step at? b = .complete c)
    (rest : List UInt8) :
    decodeLossyFrom at? (b :: rest) = c :: decodeLossyFrom none rest := by
  cases at? with
  | none =>
    have h' : start b = .complete c := h
    rw [decodeLossyFrom, h']
  | some p =>
    have h' : extend p b = .complete c := h
    rw [decodeLossyFrom, h']

theorem decodeLossyFrom_of_unfinished {p : Partial} (h : step at? b = .unfinished p)
    (rest : List UInt8) : decodeLossyFrom at? (b :: rest) = decodeLossyFrom (some p) rest := by
  cases at? with
  | none =>
    have h' : start b = .unfinished p := h
    rw [decodeLossyFrom, h']
  | some q =>
    have h' : extend q b = .unfinished p := h
    rw [decodeLossyFrom, h']

theorem decodeFrom?_of_complete {c : Char} (h : step at? b = .complete c) (rest : List UInt8) :
    decodeFrom? at? (b :: rest) = (decodeFrom? none rest).map (c :: ·) := by
  cases at? with
  | none =>
    have h' : start b = .complete c := h
    rw [decodeFrom?, h']
  | some p =>
    have h' : extend p b = .complete c := h
    rw [decodeFrom?, h']

theorem decodeFrom?_of_unfinished {p : Partial} (h : step at? b = .unfinished p)
    (rest : List UInt8) : decodeFrom? at? (b :: rest) = decodeFrom? (some p) rest := by
  cases at? with
  | none =>
    have h' : start b = .unfinished p := h
    rw [decodeFrom?, h']
  | some q =>
    have h' : extend q b = .unfinished p := h
    rw [decodeFrom?, h']

end Steps

namespace Spells

/-- A reader of faultless text goes on after the character, too. -/
theorem decode?_append {at? : Option Partial} {bytes : List UInt8} {c : Char}
    (h : Spells at? bytes c) (rest : List UInt8) :
    decodeFrom? at? (bytes ++ rest) = (decodeFrom? none rest).map (c :: ·) := by
  induction h with
  | last ends => exact decodeFrom?_of_complete ends rest
  | @next _ b p tail _ goesOn _ ih => rw [List.cons_append, decodeFrom?_of_unfinished goesOn, ih]

/-- The character is read, and reading goes on after it. -/
theorem decodeLossy_append {at? : Option Partial} {bytes : List UInt8} {c : Char}
    (h : Spells at? bytes c) (rest : List UInt8) :
    decodeLossyFrom at? (bytes ++ rest) = c :: decodeLossyFrom none rest := by
  induction h with
  | last ends => exact decodeLossyFrom_of_complete ends rest
  | @next _ b p tail _ goesOn _ ih =>
    rw [List.cons_append, decodeLossyFrom_of_unfinished goesOn, ih]

/-- What is left of a character that was cut reads as one replacement. -/
theorem decodeLossy_cut {at? : Option Partial} {bytes : List UInt8} {c : Char}
    (h : Spells at? bytes c) {k : Nat} (some_left : 0 < k) (cut : k < bytes.length) :
    decodeLossyFrom at? (bytes.take k) = [replacement] := by
  induction h generalizing k with
  | last ends =>
    simp only [List.length_singleton] at cut
    omega
  | @next _ b p tail _ goesOn _ ih =>
    obtain ⟨k, rfl⟩ : ∃ j, k = j + 1 := ⟨k - 1, by omega⟩
    rw [List.take_succ_cons, decodeLossyFrom_of_unfinished goesOn]
    rcases k with _ | k
    · rfl
    · exact ih (Nat.succ_pos k) (Nat.lt_of_succ_lt_succ cut)

end Spells

/-! ## The bytes of a character -/

theorem start_of_lt_128 {b : UInt8} (h : b.toNat < 0x80) :
    start b = .complete (Char.ofNat b.toNat) := by
  rw [start, if_pos (UInt8.lt_iff_toNat_lt.mpr h)]

/-- A byte from a bound on is in no range that ends there or before. -/
theorem not_lt_of_bound {b : UInt8} {n : Nat} (low : n ≤ b.toNat) (k : UInt8)
    (hk : k.toNat ≤ n) : ¬ b < k :=
  UInt8.not_lt.mpr (UInt8.le_iff_toNat_le.mpr (Nat.le_trans hk low))

/-- The first byte of a character of two bytes. -/
theorem start_of_two {b : UInt8} (low : 0xC2 ≤ b.toNat) (high : b.toNat < 0xE0) :
    start b = .unfinished ⟨b.toNat - 0xC0, 0, 0x80, 0xBF⟩ := by
  have hnot := not_lt_of_bound low
  rw [start, if_neg (hnot 0x80 (by decide)), if_neg (hnot 0xC2 (by decide)),
    if_pos (UInt8.lt_iff_toNat_lt.mpr high)]

/-- The first byte of a character of three bytes. -/
theorem start_of_three {b : UInt8} (low : 0xE0 ≤ b.toNat) (high : b.toNat < 0xF0) :
    start b = .unfinished ⟨b.toNat - 0xE0, 1, if b = 0xE0 then 0xA0 else 0x80,
      if b = 0xED then 0x9F else 0xBF⟩ := by
  have hnot := not_lt_of_bound low
  rw [start, if_neg (hnot 0x80 (by decide)), if_neg (hnot 0xC2 (by decide)),
    if_neg (hnot 0xE0 (by decide)), if_pos (UInt8.lt_iff_toNat_lt.mpr high)]

/-- The first byte of a character of four bytes. -/
theorem start_of_four {b : UInt8} (low : 0xF0 ≤ b.toNat) (high : b.toNat < 0xF5) :
    start b = .unfinished ⟨b.toNat - 0xF0, 2, if b = 0xF0 then 0x90 else 0x80,
      if b = 0xF4 then 0x8F else 0xBF⟩ := by
  have hnot := not_lt_of_bound low
  rw [start, if_neg (hnot 0x80 (by decide)), if_neg (hnot 0xC2 (by decide)),
    if_neg (hnot 0xE0 (by decide)), if_neg (hnot 0xF0 (by decide)),
    if_pos (UInt8.lt_iff_toNat_lt.mpr high)]

section Tails

variable {value x : Nat} {low high : UInt8}

/-- A further byte carries six bits. -/
theorem toNat_tail (hx : x < 64) : (UInt8.ofNat (x + 128)).toNat = x + 128 :=
  UInt8.toNat_ofNat_of_lt' (by simp only [UInt8.size]; omega)

theorem tail_between (hx : x < 64) (hlow : low.toNat ≤ x + 128) (hhigh : x + 128 ≤ high.toNat) :
    low ≤ UInt8.ofNat (x + 128) ∧ UInt8.ofNat (x + 128) ≤ high := by
  simp only [UInt8.le_iff_toNat_le, toNat_tail hx]
  exact ⟨hlow, hhigh⟩

/-- The last byte completes the character. -/
theorem extend_last (hx : x < 64) (hlow : low.toNat ≤ x + 128) (hhigh : x + 128 ≤ high.toNat) :
    extend ⟨value, 0, low, high⟩ (UInt8.ofNat (x + 128)) =
      .complete (Char.ofNat (64 * value + x)) := by
  simp only [extend, if_pos (tail_between hx hlow hhigh), toNat_tail hx, Nat.add_sub_cancel]

/-- After a byte in the middle, any further byte may come. -/
theorem extend_middle {m : Nat} (hx : x < 64) (hlow : low.toNat ≤ x + 128)
    (hhigh : x + 128 ≤ high.toNat) :
    extend ⟨value, m + 1, low, high⟩ (UInt8.ofNat (x + 128)) =
      .unfinished ⟨64 * value + x, m, 0x80, 0xBF⟩ := by
  simp only [extend, if_pos (tail_between hx hlow hhigh), toNat_tail hx, Nat.add_sub_cancel]

end Tails

section Sizes

variable {v : Nat}

/-- The bounds on the second byte depend on the first one. -/
theorem toNat_ite_le {b k x y : UInt8} {m : Nat} (special : b.toNat = k.toNat → x.toNat ≤ m)
    (usual : y.toNat ≤ m) : (if b = k then x else y).toNat ≤ m := by
  split
  · next h => exact special (congrArg UInt8.toNat h)
  · exact usual

theorem le_toNat_ite {b k x y : UInt8} {m : Nat} (special : b.toNat = k.toNat → m ≤ x.toNat)
    (usual : m ≤ y.toNat) : m ≤ (if b = k then x else y).toNat := by
  split
  · next h => exact special (congrArg UInt8.toNat h)
  · exact usual

/-- The last byte of a longer character. -/
theorem spells_last (v : Nat) :
    Spells (some ⟨v / 64, 0, 0x80, 0xBF⟩) [UInt8.ofNat (v % 64 + 128)] (Char.ofNat v) := by
  have hlast : extend ⟨v / 64, 0, 0x80, 0xBF⟩ (UInt8.ofNat (v % 64 + 128)) =
      .complete (Char.ofNat (64 * (v / 64) + v % 64)) :=
    extend_last (by omega) (by simp) (by simp; omega)
  rw [Nat.div_add_mod v 64] at hlast
  exact .last hlast

theorem spells_one (high : v ≤ 0x7F) : Spells none [UInt8.ofNat v] (Char.ofNat v) := by
  have hb : (UInt8.ofNat v).toNat = v :=
    UInt8.toNat_ofNat_of_lt' (by simp only [UInt8.size]; omega)
  have hstart := start_of_lt_128 (b := UInt8.ofNat v) (by omega)
  rw [hb] at hstart
  exact .last hstart

theorem spells_two (low : 0x7F < v) (high : v ≤ 0x7FF) :
    Spells none [UInt8.ofNat (v / 64 % 32 + 192), UInt8.ofNat (v % 64 + 128)] (Char.ofNat v) := by
  have hb : (UInt8.ofNat (v / 64 % 32 + 192)).toNat = v / 64 % 32 + 192 :=
    UInt8.toNat_ofNat_of_lt' (by simp only [UInt8.size]; omega)
  have hstart := start_of_two (b := UInt8.ofNat (v / 64 % 32 + 192)) (by omega) (by omega)
  have hvalue : v / 64 % 32 + 192 - 0xC0 = v / 64 := by omega
  rw [hb, hvalue] at hstart
  exact .next hstart (spells_last v)

theorem spells_three (low : 0x7FF < v) (high : v ≤ 0xFFFF) (valid : v < 0xD800 ∨ 0xDFFF < v) :
    Spells none [UInt8.ofNat (v / 4096 % 16 + 224), UInt8.ofNat (v / 64 % 64 + 128),
      UInt8.ofNat (v % 64 + 128)] (Char.ofNat v) := by
  have hb : (UInt8.ofNat (v / 4096 % 16 + 224)).toNat = v / 4096 % 16 + 224 :=
    UInt8.toNat_ofNat_of_lt' (by simp only [UInt8.size]; omega)
  have hstart := start_of_three (b := UInt8.ofNat (v / 4096 % 16 + 224)) (by omega) (by omega)
  -- no shorter form, and no surrogate
  have hlow : (if UInt8.ofNat (v / 4096 % 16 + 224) = 0xE0 then (0xA0 : UInt8) else 0x80).toNat ≤
      v / 64 % 64 + 128 := toNat_ite_le (by rw [hb]; simp; omega) (by simp)
  have hhigh : v / 64 % 64 + 128 ≤
      (if UInt8.ofNat (v / 4096 % 16 + 224) = 0xED then (0x9F : UInt8) else 0xBF).toNat :=
    le_toNat_ite (by rw [hb]; simp; omega) (by simp; omega)
  have hmiddle : extend ⟨v / 4096, 1, _, _⟩ (UInt8.ofNat (v / 64 % 64 + 128)) =
      .unfinished ⟨64 * (v / 4096) + v / 64 % 64, 0, 0x80, 0xBF⟩ :=
    extend_middle (by omega) hlow hhigh
  have hfirst : v / 4096 % 16 + 224 - 0xE0 = v / 4096 := by omega
  have hvalue : 64 * (v / 4096) + v / 64 % 64 = v / 64 := by omega
  rw [hb, hfirst] at hstart
  rw [hvalue] at hmiddle
  exact .next hstart (.next hmiddle (spells_last v))

theorem spells_four (low : 0xFFFF < v) (high : v < 0x110000) :
    Spells none [UInt8.ofNat (v / 262144 % 8 + 240), UInt8.ofNat (v / 4096 % 64 + 128),
      UInt8.ofNat (v / 64 % 64 + 128), UInt8.ofNat (v % 64 + 128)] (Char.ofNat v) := by
  have hb : (UInt8.ofNat (v / 262144 % 8 + 240)).toNat = v / 262144 % 8 + 240 :=
    UInt8.toNat_ofNat_of_lt' (by simp only [UInt8.size]; omega)
  have hstart := start_of_four (b := UInt8.ofNat (v / 262144 % 8 + 240)) (by omega) (by omega)
  -- no shorter form, and no code point that does not exist
  have hlow : (if UInt8.ofNat (v / 262144 % 8 + 240) = 0xF0 then (0x90 : UInt8) else 0x80).toNat ≤
      v / 4096 % 64 + 128 := toNat_ite_le (by rw [hb]; simp; omega) (by simp)
  have hhigh : v / 4096 % 64 + 128 ≤
      (if UInt8.ofNat (v / 262144 % 8 + 240) = 0xF4 then (0x8F : UInt8) else 0xBF).toNat :=
    le_toNat_ite (by rw [hb]; simp; omega) (by simp; omega)
  have hsecond : extend ⟨v / 262144, 2, _, _⟩ (UInt8.ofNat (v / 4096 % 64 + 128)) =
      .unfinished ⟨64 * (v / 262144) + v / 4096 % 64, 1, 0x80, 0xBF⟩ :=
    extend_middle (by omega) hlow hhigh
  have hthird : extend ⟨v / 4096, 1, 0x80, 0xBF⟩ (UInt8.ofNat (v / 64 % 64 + 128)) =
      .unfinished ⟨64 * (v / 4096) + v / 64 % 64, 0, 0x80, 0xBF⟩ :=
    extend_middle (by omega) (by simp) (by simp; omega)
  have hfirst : v / 262144 % 8 + 240 - 0xF0 = v / 262144 := by omega
  have hvalue₁ : 64 * (v / 262144) + v / 4096 % 64 = v / 4096 := by omega
  have hvalue₂ : 64 * (v / 4096) + v / 64 % 64 = v / 64 := by omega
  rw [hb, hfirst] at hstart
  rw [hvalue₁] at hsecond
  rw [hvalue₂] at hthird
  exact .next hstart (.next hsecond (.next hthird (spells_last v)))

end Sizes

/-- The bytes of a character spell it. -/
theorem spells_utf8EncodeChar (c : Char) : Spells none (String.utf8EncodeChar c) c := by
  have hvalid : c.val.toNat < 0xD800 ∨ 0xDFFF < c.val.toNat ∧ c.val.toNat < 0x110000 := c.valid
  have hspells : Spells none (String.utf8EncodeChar c) (Char.ofNat c.val.toNat) := by
    unfold String.utf8EncodeChar
    dsimp only
    by_cases h₁ : c.val.toNat ≤ 0x7F
    · rw [if_pos h₁]
      exact spells_one h₁
    by_cases h₂ : c.val.toNat ≤ 0x7FF
    · rw [if_neg h₁, if_pos h₂]
      exact spells_two (by omega) h₂
    by_cases h₃ : c.val.toNat ≤ 0xFFFF
    · rw [if_neg h₁, if_neg h₂, if_pos h₃]
      exact spells_three (by omega) h₃ (by omega)
    · rw [if_neg h₁, if_neg h₂, if_neg h₃]
      exact spells_four (by omega) (by omega)
  have hc : Char.ofNat c.val.toNat = c := Char.ofNat_toNat c
  rwa [hc] at hspells

/-! ## Whole texts -/

theorem decodeLossyFrom_encode_append (text : List Char) (rest : List UInt8) :
    decodeLossyFrom none (encode text ++ rest) = text ++ decodeLossyFrom none rest := by
  induction text with
  | nil => rfl
  | cons c text ih =>
    rw [encode_cons, List.append_assoc, (spells_utf8EncodeChar c).decodeLossy_append, ih]
    rfl

/-- A text is read back. -/
theorem decodeLossy_encode (text : List Char) : decodeLossy (encode text) = text := by
  have h := decodeLossyFrom_encode_append text []
  rw [List.append_nil] at h
  rw [decodeLossy, h, decodeLossyFrom, List.append_nil]

/-- The bytes of a text have no fault. -/
theorem decode?_encode (text : List Char) : decode? (encode text) = some text := by
  unfold decode?
  induction text with
  | nil => rfl
  | cons c text ih =>
    rw [encode_cons, (spells_utf8EncodeChar c).decode?_append, ih, Option.map_some]

/-! ## Texts that are cut off -/

/-- What fits into so many bytes, in whole characters. -/
def fitting : Nat → List Char → List Char
  | _, [] => []
  | n, c :: text =>
    if c.utf8Size ≤ n then c :: fitting (n - c.utf8Size) text else []

/-- The longest beginning of a text that fits into so many bytes. -/
structure LongestFit (n : Nat) (text begun : List Char) : Prop where
  begins : begun <+: text
  fits : (encode begun).length ≤ n
  longest : ∀ other, other <+: text → (encode other).length ≤ n → other <+: begun

theorem length_encode_cons (c : Char) (text : List Char) :
    (encode (c :: text)).length = c.utf8Size + (encode text).length := by
  rw [encode_cons, List.length_append, String.length_utf8EncodeChar]

theorem longestFit_fitting (n : Nat) (text : List Char) : LongestFit n text (fitting n text) := by
  induction text generalizing n with
  | nil => exact ⟨List.prefix_refl [], Nat.zero_le n, fun _ h _ => h⟩
  | cons c text ih =>
    by_cases hfits : c.utf8Size ≤ n
    · obtain ⟨hbegins, hlength, hlongest⟩ := ih (n - c.utf8Size)
      rw [fitting, if_pos hfits]
      refine ⟨(List.prefix_cons_inj c).mpr hbegins, ?_, ?_⟩
      · rw [length_encode_cons]
        omega
      · intro other hother hbytes
        rcases other with _ | ⟨d, other⟩
        · exact List.nil_prefix
        · obtain ⟨rfl, htail⟩ := List.cons_prefix_cons.mp hother
          rw [length_encode_cons] at hbytes
          exact (List.prefix_cons_inj d).mpr (hlongest other htail (by omega))
    · rw [fitting, if_neg hfits]
      refine ⟨List.nil_prefix, Nat.zero_le n, ?_⟩
      intro other hother hbytes
      rcases other with _ | ⟨d, other⟩
      · exact List.nil_prefix
      · obtain ⟨rfl, _⟩ := List.cons_prefix_cons.mp hother
        rw [length_encode_cons] at hbytes
        omega

/-- The first bytes of a text that does not fit read as what fits, and one replacement if
they end inside a character. -/
theorem decodeLossy_take_encode {n : Nat} {text : List Char} (cut : n < (encode text).length) :
    decodeLossy ((encode text).take n) =
      fitting n text ++ if (encode (fitting n text)).length < n then [replacement] else [] := by
  induction text generalizing n with
  | nil => exact absurd cut (Nat.not_lt_zero n)
  | cons c text ih =>
    have hsize : (String.utf8EncodeChar c).length = c.utf8Size := String.length_utf8EncodeChar c
    rw [length_encode_cons] at cut
    by_cases hfits : c.utf8Size ≤ n
    · have hrest := ih (n := n - c.utf8Size) (by omega)
      have hbytes : (encode (c :: fitting (n - c.utf8Size) text)).length < n ↔
          (encode (fitting (n - c.utf8Size) text)).length < n - c.utf8Size := by
        rw [length_encode_cons]
        omega
      rw [fitting, if_pos hfits, encode_cons, List.take_append,
        List.take_of_length_le (by rw [hsize]; exact hfits), hsize, decodeLossy,
        (spells_utf8EncodeChar c).decodeLossy_append, ← decodeLossy, hrest]
      simp only [hbytes, List.cons_append]
    · rw [fitting, if_neg hfits, encode_cons,
        List.take_append_of_le_length (by rw [hsize]; omega)]
      rcases n with _ | n
      · rfl
      · have hinside : (encode []).length < n + 1 := Nat.succ_pos n
        rw [decodeLossy, (spells_utf8EncodeChar c).decodeLossy_cut (Nat.succ_pos n) (by omega),
          if_pos hinside]
        rfl

end RemotePad.Utf8
