import Mathlib.Data.Nat.Digits.Defs
import RemotePad.Text.Numeral

/-!
# Numerals that are read back

* `valueOf_numeral`: the digits of a number stand for the number.
* `isDigitOf_of_mem_numeral`, `length_numeral_le`, `head?_numeral_ne_zero`: they are digits of the
  base, as few as the number needs, without a leading zero.
* `takeWhile_digits` and `dropWhile_digits`: a reader of digits stops behind them.
* `isDigitOf_between`: digits are neither blanks nor most of the signs.
-/

namespace RemotePad

variable {base : Nat}

/-! ## Digits -/

theorem alphanumericValue?_digitChar :
    ∀ d < 16, alphanumericValue? (Nat.digitChar d) = some d := by
  decide

theorem digitValue?_digitChar (small : base ≤ 16) {d : Nat} (hd : d < base) :
    digitValue? base (Nat.digitChar d) = some d := by
  have hvalue := alphanumericValue?_digitChar d (Nat.lt_of_lt_of_le hd small)
  simp [digitValue?, hvalue, hd]

/-- Digits are numerals and letters. -/
theorem isDigitOf_between {c : Char} (digit : isDigitOf base c = true) :
    48 ≤ c.toNat ∧ c.toNat ≤ 122 := by
  have hchars : ('0' ≤ c ∧ c ≤ '9') ∨ ('a' ≤ c ∧ c ≤ 'z') ∨ ('A' ≤ c ∧ c ≤ 'Z') := by
    unfold isDigitOf digitValue? alphanumericValue? at digit
    split at digit
    · exact Or.inl ‹_›
    · split at digit
      · exact Or.inr (Or.inl ‹_›)
      · split at digit
        · exact Or.inr (Or.inr ‹_›)
        · cases digit
  have hle : ∀ a b : Char, a ≤ b → a.toNat ≤ b.toNat := fun _ _ h => h
  rcases hchars with ⟨hlo, hhi⟩ | ⟨hlo, hhi⟩ | ⟨hlo, hhi⟩ <;>
    · have hlo' := hle _ _ hlo
      have hhi' := hle _ _ hhi
      simp only [Char.reduceToNat] at hlo' hhi'
      omega

theorem ne_of_isDigitOf {c d : Char} (digit : isDigitOf base c = true)
    (other : isDigitOf base d = false) : c ≠ d := by
  rintro rfl
  rw [digit] at other
  cases other

/-! ## Digits of a number -/

theorem numeral_of_lt {n : Nat} (h : n < base) : numeral base n = [Nat.digitChar n] :=
  Nat.toDigits_of_lt_base h

theorem numeral_of_le (two : 1 < base) {n : Nat} (h : base ≤ n) :
    numeral base n = numeral base (n / base) ++ [Nat.digitChar (n % base)] :=
  Nat.toDigits_of_base_le two h

theorem numeral_ne_nil (base n : Nat) : numeral base n ≠ [] :=
  Nat.toDigits_ne_nil

theorem valueOf_append (digits : List Char) (c : Char) :
    valueOf base (digits ++ [c]) = base * valueOf base digits + (digitValue? base c).getD 0 := by
  rw [valueOf, List.foldl_append]
  rfl

section

variable (two : 1 < base) (small : base ≤ 16)

include two small

theorem isDigitOf_of_mem_numeral (n : Nat) : ∀ c ∈ numeral base n, isDigitOf base c = true := by
  induction n using Nat.strongRecOn with
  | ind n ih =>
    intro c hc
    by_cases h : n < base
    · rw [numeral_of_lt h, List.mem_singleton] at hc
      rw [hc, isDigitOf, digitValue?_digitChar small h]
      rfl
    · rw [numeral_of_le two (Nat.le_of_not_lt h)] at hc
      rcases List.mem_append.mp hc with hmem | hlast
      · exact ih (n / base) (Nat.div_lt_self (by omega) two) c hmem
      · rw [List.mem_singleton] at hlast
        rw [hlast, isDigitOf, digitValue?_digitChar small (Nat.mod_lt n (by omega))]
        rfl

/-- The digits of a number stand for the number. -/
theorem valueOf_numeral (n : Nat) : valueOf base (numeral base n) = n := by
  induction n using Nat.strongRecOn with
  | ind n ih =>
    by_cases h : n < base
    · rw [numeral_of_lt h]
      show base * 0 + (digitValue? base (Nat.digitChar n)).getD 0 = n
      rw [digitValue?_digitChar small h, Option.getD_some]
      omega
    · rw [numeral_of_le two (Nat.le_of_not_lt h), valueOf_append,
        ih (n / base) (Nat.div_lt_self (by omega) two),
        digitValue?_digitChar small (Nat.mod_lt n (by omega)), Option.getD_some]
      exact Nat.div_add_mod n base

/-- Only zero is written with a zero in front. -/
theorem head?_numeral_ne_zero {n : Nat} (positive : 0 < n) :
    (numeral base n).head? ≠ some '0' := by
  induction n using Nat.strongRecOn with
  | ind n ih =>
    by_cases h : n < base
    · rw [numeral_of_lt h]
      intro hzero
      have hchar : Nat.digitChar n = '0' := Option.some.inj hzero
      have hvalue := alphanumericValue?_digitChar n (Nat.lt_of_lt_of_le h small)
      rw [hchar] at hvalue
      exact absurd (Option.some.inj hvalue) (Nat.ne_of_lt positive)
    · have hfirst := ih (n / base) (Nat.div_lt_self positive two)
        (Nat.div_pos (Nat.le_of_not_lt h) (by omega))
      obtain ⟨c, rest, hcons⟩ := List.exists_cons_of_ne_nil (numeral_ne_nil base (n / base))
      rw [hcons] at hfirst
      rw [numeral_of_le two (Nat.le_of_not_lt h), hcons]
      exact hfirst

end

theorem length_numeral_le {n k : Nat} (positive : 0 < k) (h : n < base ^ k) :
    (numeral base n).length ≤ k :=
  Nat.toDigits_length base n k positive h

/-! ## Reading digits -/

/-- The rest of a text behind digits does not go on with one. -/
def StopsDigits (base : Nat) (rest : List Char) : Prop :=
  ∀ c ∈ rest.head?, isDigitOf base c = false

theorem stopsDigits_nil (base : Nat) : StopsDigits base [] := nofun

theorem stopsDigits_cons {c : Char} {rest : List Char} (h : isDigitOf base c = false) :
    StopsDigits base (c :: rest) := by
  intro d hd
  cases hd
  exact h

theorem takeWhile_of_stops {rest : List Char} (stops : StopsDigits base rest) :
    rest.takeWhile (isDigitOf base) = [] := by
  cases rest with
  | nil => rfl
  | cons c rest =>
    rw [List.takeWhile_cons, stops c rfl]
    rfl

theorem dropWhile_of_stops {rest : List Char} (stops : StopsDigits base rest) :
    rest.dropWhile (isDigitOf base) = rest := by
  cases rest with
  | nil => rfl
  | cons c rest =>
    rw [List.dropWhile_cons, stops c rfl]
    rfl

theorem takeWhile_digits {digits rest : List Char} (all : ∀ c ∈ digits, isDigitOf base c = true)
    (stops : StopsDigits base rest) : (digits ++ rest).takeWhile (isDigitOf base) = digits := by
  rw [List.takeWhile_append_of_pos all, takeWhile_of_stops stops, List.append_nil]

theorem dropWhile_digits {digits rest : List Char} (all : ∀ c ∈ digits, isDigitOf base c = true)
    (stops : StopsDigits base rest) : (digits ++ rest).dropWhile (isDigitOf base) = rest := by
  rw [List.dropWhile_append_of_pos all, dropWhile_of_stops stops]

end RemotePad
