import RemotePad.Text.Numeral
import RemotePad.Toml.Value

/-!
# TOML numbers, dates and times

Digits of a number may have single underscores between them.

* Integers are decimal with a sign, or unsigned in base 16, 8 or 2, and have 64 bits.
* Floats have a fraction or an exponent, or are an infinity or no number.  A positive
  float too great for 64 bits is refused.
* Dates exist in the calendar; the last second of a minute may be number 60.

Every reader takes a beginning of the text and hands on the rest.
-/

namespace RemotePad.Toml

/-! ## Runs of digits -/

/-- Digits with single underscores between them, which are dropped, and the rest.
`after` says that a digit stands before the text. -/
def digitRun (base : Nat) : (after : Bool) → List Char → List Char × List Char
  | _, [] => ([], [])
  | after, c :: rest =>
    if isDigitOf base c then
      let more := digitRun base true rest
      (c :: more.1, more.2)
    else if c = '_' && after && rest.head?.any (isDigitOf base) then digitRun base false rest
    else ([], c :: rest)

/-- A run of at least one digit. -/
def digits? (base : Nat) (text : List Char) : Option (List Char × List Char) :=
  let run := digitRun base false text
  if run.1.isEmpty then none else some run

/-- A sign, if there is one: whether it is a minus, and the rest. -/
def readSign : List Char → Bool × List Char
  | '-' :: rest => (true, rest)
  | '+' :: rest => (false, rest)
  | rest => (false, rest)

/-- Decimal digits without a leading zero, after an optional sign. -/
def readSigned (text : List Char) : Option (Bool × List Char × List Char) :=
  let sign := readSign text
  match sign.2 with
  | '0' :: rest => some (sign.1, ['0'], rest)
  | other => (digits? 10 other).map fun run => (sign.1, run.1, run.2)

/-! ## Integers -/

/-- The value of digits with a sign. -/
def signedValue (negative : Bool) (magnitude : Nat) : Int :=
  if negative then -(magnitude : Int) else magnitude

/-- Whether a 64-bit integer has the value. -/
def fits64 (n : Int) : Bool :=
  -9223372036854775808 ≤ n && n ≤ 9223372036854775807

/-- An integer value, if it has 64 bits. -/
def integer? (n : Int) (rest : List Char) : Option (Value × List Char) :=
  if fits64 n then some (.integer n, rest) else none

/-- Reads an unsigned integer in a base other than ten. -/
def readBased (base : Nat) (text : List Char) : Option (Value × List Char) :=
  (digits? base text).bind fun run => integer? (valueOf base run.1) run.2

/-- Reads an integer. -/
def readInteger : List Char → Option (Value × List Char)
  | '0' :: 'x' :: rest => readBased 16 rest
  | '0' :: 'o' :: rest => readBased 8 rest
  | '0' :: 'b' :: rest => readBased 2 rest
  | text =>
    (readSigned text).bind fun (negative, run, rest) =>
      integer? (signedValue negative (valueOf 10 run)) rest

/-! ## Floats -/

/-- Least magnitude that 64-bit floats round to infinity: the greatest finite float
and half a step more. -/
def floatBound : Nat := Nat.pow 2 1024 - Nat.pow 2 970

/-- Whether `m * 10 ^ e` reaches `floatBound`.  Only numbers with 309 places before the
point have to be looked at closely. -/
def overflowsFloat (m : Nat) (e : Int) : Bool :=
  let places := (decimal m).length + e
  if m = 0 then false
  else if places < 309 then false
  else if 309 < places then true
  else if 0 ≤ e then floatBound ≤ m * Nat.pow 10 e.toNat
  else floatBound * Nat.pow 10 (-e).toNat ≤ m

/-- Reads a fraction, if there is a point: its digits. -/
def readFraction : List Char → Option (List Char × List Char)
  | '.' :: rest => digits? 10 rest
  | text => some ([], text)

/-- Reads an exponent, if there is one. -/
def readExponent : List Char → Option (Option Int × List Char)
  | c :: rest =>
    if c = 'e' || c = 'E' then
      let sign := readSign rest
      (digits? 10 sign.2).map fun run => (some (signedValue sign.1 (valueOf 10 run.1)), run.2)
    else some (none, c :: rest)
  | [] => some (none, [])

/-- The part of a text before its rest. -/
def consumed (text rest : List Char) : List Char :=
  text.take (text.length - rest.length)

/-- Reads a float in digits. -/
def readDigitFloat (text : List Char) : Option (Value × List Char) := do
  let (negative, whole, rest) ← readSigned text
  let (fraction, rest) ← readFraction rest
  let (exponent, rest) ← readExponent rest
  if fraction.isEmpty && exponent.isNone then none
  else if !negative && overflowsFloat (valueOf 10 (whole ++ fraction))
      (exponent.getD 0 - fraction.length) then none
  else some (.float (consumed text rest), rest)

/-- Reads an infinity or no number. -/
def readSpecialFloat (text : List Char) : Option (Value × List Char) :=
  match (readSign text).2 with
  | 'i' :: 'n' :: 'f' :: rest => some (.float (consumed text rest), rest)
  | 'n' :: 'a' :: 'n' :: rest => some (.float (consumed text rest), rest)
  | _ => none

/-- Reads a float. -/
def readFloat (text : List Char) : Option (Value × List Char) :=
  (readDigitFloat text).orElse fun _ => readSpecialFloat text

/-! ## Dates and times -/

/-- Reads exactly `count` digits. -/
def readDigits (count : Nat) (text : List Char) : Option (Nat × List Char) :=
  let run := text.take count
  if run.length = count ∧ run.all (isDigitOf 10) then some (valueOf 10 run, text.drop count)
  else none

/-- Reads two digits of a value in a range. -/
def readTwo (low high : Nat) (text : List Char) : Option (Nat × List Char) :=
  (readDigits 2 text).filter fun r => low ≤ r.1 && r.1 ≤ high

/-- Reads one given character. -/
def readSymbol (c : Char) : List Char → Option (List Char)
  | [] => none
  | d :: rest => if d = c then some rest else none

/-- The number of days of a month. -/
def daysOfMonth (year month : Nat) : Nat :=
  if month = 2 then
    if year % 4 = 0 ∧ (year % 100 ≠ 0 ∨ year % 400 = 0) then 29 else 28
  else if month = 4 ∨ month = 6 ∨ month = 9 ∨ month = 11 then 30
  else 31

/-- Reads a date and hands on the rest. -/
def readDate (text : List Char) : Option (List Char) := do
  let (year, rest) ← readDigits 4 text
  let (month, rest) ← readTwo 1 12 (← readSymbol '-' rest)
  let (_, rest) ← readTwo 1 (daysOfMonth year month) (← readSymbol '-' rest)
  return rest

/-- Drops a fraction of a second; a point without digits stays. -/
def dropSecondFraction : List Char → List Char
  | '.' :: rest =>
    if rest.head?.any (isDigitOf 10) then rest.dropWhile (isDigitOf 10) else '.' :: rest
  | text => text

/-- Reads a time of day and hands on the rest. -/
def readTime (text : List Char) : Option (List Char) := do
  let (_, rest) ← readTwo 0 23 text
  let (_, rest) ← readTwo 0 59 (← readSymbol ':' rest)
  let (_, rest) ← readTwo 0 60 (← readSymbol ':' rest)
  return dropSecondFraction rest

/-- Reads the distance from universal time. -/
def readOffset : List Char → Option (List Char)
  | c :: rest =>
    if c = 'Z' || c = 'z' then some rest
    else if c = '+' || c = '-' then do
      let (_, rest) ← readTwo 0 23 rest
      let (_, rest) ← readTwo 0 59 (← readSymbol ':' rest)
      return rest
    else none
  | [] => none

/-- Reads a time behind a date, with or without a distance from universal time. -/
def readTimeOfDate : List Char → Option (List Char)
  | c :: rest =>
    if c = 'T' || c = 't' || c = ' ' then
      (readTime rest).map fun rest => (readOffset rest).getD rest
    else none
  | [] => none

/-- Reads a date, a time or both. -/
def readDateTime (text : List Char) : Option (Value × List Char) :=
  let rest? :=
    match readDate text with
    | some rest => some ((readTimeOfDate rest).getD rest)
    | none => readTime text
  rest?.map fun rest => (.datetime (consumed text rest), rest)

/-- Reads what begins like a number: a date or time, a float, or an integer. -/
def readNumeric (text : List Char) : Option (Value × List Char) :=
  (readDateTime text).orElse fun _ => (readFloat text).orElse fun _ => readInteger text

end RemotePad.Toml
