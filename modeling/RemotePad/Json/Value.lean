import RemotePad.Text.Numeral

/-!
# JSON values

`Json.parse?` reads a text as one JSON value.

* A string may spell characters as UTF-16 units.  A string with a surrogate that has
  no partner is well-formed but stands for no text.
* A number is an integer if it is written without fraction and exponent; a minus
  sign before a bare zero makes it a real number.
* Members of an object keep their order, and nothing is said about repeated names.

Every reader takes a beginning of the text and hands on the rest.  The readers of
values are bounded by the length of the text.
-/

namespace RemotePad

/-! ## Values -/

/-- A JSON value.  Real numbers keep their written form. -/
inductive Json where
  | null
  | boolean (value : Bool)
  | integer (value : Int)
  | real (text : List Char)
  /-- A string and the text that it stands for, if there is one. -/
  | string (text : Option (List Char))
  | array (items : List Json)
  | object (members : List (Option (List Char) × Json))

namespace Json

/-! ## Blanks -/

/-- What may stand between the parts of a text. -/
def isSpace (c : Char) : Bool :=
  c = ' ' || c = '\n' || c = '\t' || c = '\r'

/-- Drops blanks. -/
def skipSpace (text : List Char) : List Char :=
  text.dropWhile isSpace

/-! ## Strings -/

/-- The characters with a short escape, as they are written behind a backslash. -/
def shortEscapes : List (Char × Char) :=
  [('"', '"'), ('\\', '\\'), ('b', '\x08'), ('f', '\x0c'), ('n', '\n'), ('r', '\r'), ('t', '\t')]

/-- What a string is written with: characters, and code units in base sixteen. -/
inductive StringPart where
  | char (c : Char)
  | unit (n : Nat)
  deriving Repr, DecidableEq

/-- The character behind a backslash that is not a code unit. -/
def escapeChar? (c : Char) : Option Char :=
  if c = '/' then some '/' else (shortEscapes.find? fun e => e.1 = c).map Prod.snd

/-- Reads four digits in base sixteen. -/
def unit? : List Char → Option (Nat × List Char)
  | a :: b :: c :: d :: rest =>
    if [a, b, c, d].all (isDigitOf 16) then some (valueOf 16 [a, b, c, d], rest) else none
  | _ => none

/-- Reads one part of a string. -/
def stringPart? : List Char → Option (StringPart × List Char)
  | '\\' :: 'u' :: rest => (unit? rest).map fun u => (.unit u.1, u.2)
  | '\\' :: c :: rest => (escapeChar? c).map fun e => (.char e, rest)
  | c :: rest => if c = '\\' || c.toNat < 0x20 then none else some (.char c, rest)
  | [] => none

/-- Reads the parts of a string up to the closing quote. -/
def readParts : (fuel : Nat) → List Char → Option (List StringPart × List Char)
  | 0, _ => none
  | _ + 1, '"' :: rest => some ([], rest)
  | fuel + 1, text =>
    (stringPart? text).bind fun (part, rest) =>
      (readParts fuel rest).map fun more => (part :: more.1, more.2)

/-- The first half of a character in two units. -/
def isHighSurrogate (n : Nat) : Bool :=
  0xD800 ≤ n && n < 0xDC00

/-- The second half of a character in two units. -/
def isLowSurrogate (n : Nat) : Bool :=
  0xDC00 ≤ n && n < 0xE000

/-- The text that the parts of a string stand for.  A half without its partner stands
for nothing. -/
def textOfParts : List StringPart → Option (List Char)
  | [] => some []
  | .char c :: rest => (textOfParts rest).map (c :: ·)
  | [.unit n] =>
    if isHighSurrogate n || isLowSurrogate n then none else some [Char.ofNat n]
  | .unit n :: part :: rest =>
    if isHighSurrogate n then
      match part with
      | .unit m =>
        if isLowSurrogate m then
          (textOfParts rest).map
            (Char.ofNat (0x10000 + 0x400 * (n - 0xD800) + (m - 0xDC00)) :: ·)
        else none
      | .char _ => none
    else if isLowSurrogate n then none
    else (textOfParts (part :: rest)).map (Char.ofNat n :: ·)

/-- Reads a string behind its opening quote: the text that it stands for. -/
def readString (text : List Char) : Option (Option (List Char) × List Char) :=
  (readParts (text.length + 1) text).map fun r => (textOfParts r.1, r.2)

/-! ## Numbers -/

/-- Reads at least one decimal digit. -/
def readDigits (text : List Char) : Option (List Char × List Char) :=
  let digits := text.takeWhile (isDigitOf 10)
  if digits.isEmpty then none else some (digits, text.dropWhile (isDigitOf 10))

/-- Reads the digits before the point: a zero, or digits that begin otherwise. -/
def readWhole : List Char → Option (List Char × List Char)
  | '0' :: rest => some (['0'], rest)
  | text => readDigits text

/-- Drops a fraction, if there is one. -/
def skipFraction : List Char → Option (List Char)
  | '.' :: rest => (readDigits rest).map Prod.snd
  | text => some text

/-- Drops a sign, if there is one. -/
def skipSign : List Char → List Char
  | '+' :: rest => rest
  | '-' :: rest => rest
  | text => text

/-- Drops an exponent, if there is one. -/
def skipExponent : List Char → Option (List Char)
  | [] => some []
  | c :: rest =>
    if c = 'e' || c = 'E' then (readDigits (skipSign rest)).map Prod.snd else some (c :: rest)

/-- The number with a sign and digits; a zero below zero is real. -/
def ofDigits (negative : Bool) (digits : List Char) : Json :=
  if negative then
    if valueOf 10 digits = 0 then .real ('-' :: digits) else .integer (-(valueOf 10 digits : Int))
  else .integer (valueOf 10 digits)

/-- Reads a number without its sign. -/
def readMagnitude (negative : Bool) (text : List Char) : Option (Json × List Char) := do
  let (digits, afterWhole) ← readWhole text
  let rest ← skipExponent (← skipFraction afterWhole)
  if rest.length = afterWhole.length then return (ofDigits negative digits, rest)
  else
    let written := text.take (text.length - rest.length)
    return (.real (if negative then '-' :: written else written), rest)

/-- Reads a number. -/
def readNumber : List Char → Option (Json × List Char)
  | '-' :: rest => readMagnitude true rest
  | text => readMagnitude false text

/-! ## All values -/

/-- Reads a word that stands for a value. -/
def readWord (word : List Char) (v : Json) (text : List Char) : Option (Json × List Char) :=
  if text.take word.length = word then some (v, text.drop word.length) else none

/-- Reads a value without brackets. -/
def readScalar : List Char → Option (Json × List Char)
  | '"' :: rest => (readString rest).map fun r => (.string r.1, r.2)
  | 'n' :: rest => readWord "null".toList .null ('n' :: rest)
  | 't' :: rest => readWord "true".toList (.boolean true) ('t' :: rest)
  | 'f' :: rest => readWord "false".toList (.boolean false) ('f' :: rest)
  | text => readNumber text

/-- Reads the name of a member and the colon behind it. -/
def readName : List Char → Option (Option (List Char) × List Char)
  | '"' :: rest =>
    (readString rest).bind fun r =>
      match skipSpace r.2 with
      | ':' :: rest => some (r.1, rest)
      | _ => none
  | _ => none

mutual

/-- Reads a value. -/
def readValue : (fuel : Nat) → List Char → Option (Json × List Char)
  | 0, _ => none
  | fuel + 1, text =>
    match skipSpace text with
    | '[' :: rest =>
      match skipSpace rest with
      | ']' :: rest => some (.array [], rest)
      | rest => (readItems fuel rest).map fun r => (.array r.1, r.2)
    | '{' :: rest =>
      match skipSpace rest with
      | '}' :: rest => some (.object [], rest)
      | rest => (readMembers fuel rest).map fun r => (.object r.1, r.2)
    | text => readScalar text

/-- Reads the items of an array up to the closing bracket. -/
def readItems : (fuel : Nat) → List Char → Option (List Json × List Char)
  | 0, _ => none
  | fuel + 1, text =>
    (readValue fuel text).bind fun (v, rest) =>
      match skipSpace rest with
      | ']' :: rest => some ([v], rest)
      | ',' :: rest => (readItems fuel rest).map fun r => (v :: r.1, r.2)
      | _ => none

/-- Reads the members of an object up to the closing brace. -/
def readMembers : (fuel : Nat) → List Char →
    Option (List (Option (List Char) × Json) × List Char)
  | 0, _ => none
  | fuel + 1, text =>
    (readName (skipSpace text)).bind fun (name, rest) =>
      (readValue fuel rest).bind fun (v, rest) =>
        match skipSpace rest with
        | '}' :: rest => some ([(name, v)], rest)
        | ',' :: rest => (readMembers fuel rest).map fun r => ((name, v) :: r.1, r.2)
        | _ => none

end

/-- Reads a whole text as one value, with blanks around it. -/
def parse? (text : List Char) : Option Json :=
  match readValue (2 * text.length + 2) text with
  | some (v, rest) => if skipSpace rest = [] then some v else none
  | none => none

end Json

end RemotePad
