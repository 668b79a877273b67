/-!
# Numerals

Numbers as text in a base up to sixteen, without sign, in lower case.

* `numeral` writes a number without leading zeros, `decimal` in base ten.
* `signedDecimal` puts a minus sign before negative integers.
* `digitValue?` reads one digit of a base in either case, `valueOf` a whole run
  of digits.
-/

namespace RemotePad

/-! ## Writing -/

/-- A number in a base, most significant digit first. -/
def numeral (base n : Nat) : List Char :=
  Nat.toDigits base n

/-- A number in base ten. -/
def decimal (n : Nat) : List Char :=
  numeral 10 n

/-- An integer in base ten. -/
def signedDecimal : Int → List Char
  | .ofNat n => decimal n
  | .negSucc n => '-' :: decimal (n + 1)

/-- A byte in base sixteen with exactly two digits. -/
def hexByte (b : UInt8) : List Char :=
  [Nat.digitChar (b.toNat / 16), Nat.digitChar (b.toNat % 16)]

/-! ## Reading -/

/-- The value of a decimal digit or a letter that continues the digits. -/
def alphanumericValue? (c : Char) : Option Nat :=
  if '0' ≤ c ∧ c ≤ '9' then some (c.toNat - 48)
  else if 'a' ≤ c ∧ c ≤ 'z' then some (c.toNat - 87)
  else if 'A' ≤ c ∧ c ≤ 'Z' then some (c.toNat - 55)
  else none

/-- The value of a digit of the base; letters count in either case. -/
def digitValue? (base : Nat) (c : Char) : Option Nat :=
  (alphanumericValue? c).filter (· < base)

/-- Whether a character is a digit of the base. -/
def isDigitOf (base : Nat) (c : Char) : Bool :=
  (digitValue? base c).isSome

/-- The number that a run of digits stands for; other characters count as zero. -/
def valueOf (base : Nat) (digits : List Char) : Nat :=
  digits.foldl (fun n c => base * n + (digitValue? base c).getD 0) 0

/-- Reads a whole text as a non-empty run of decimal digits. -/
def readDecimal? (text : List Char) : Option Nat :=
  if text ≠ [] ∧ text.all (isDigitOf 10) then some (valueOf 10 text) else none

end RemotePad
