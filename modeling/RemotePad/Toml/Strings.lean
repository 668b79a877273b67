import RemotePad.Text.Numeral

/-!
# TOML strings

There are four kinds of strings: basic and literal ones, each on one line or on
several.  Basic strings have escapes, literal ones none.  A string on several
lines is closed by three quotes and may have up to two more right before them.

Every reader starts behind the opening quotes and hands on the rest of the text.
Line ends are single newlines here (`unifyNewlines`); a carriage return that is
left over is not allowed anywhere.
-/

namespace RemotePad.Toml

/-! ## Characters -/

/-- A carriage return with a newline counts as a newline. -/
def unifyNewlines : List Char → List Char
  | [] => []
  | [c] => [c]
  | c :: d :: rest =>
    if c = '\r' ∧ d = '\n' then '\n' :: unifyNewlines rest else c :: unifyNewlines (d :: rest)

/-- Blanks inside a line. -/
def isBlank (c : Char) : Bool :=
  c = ' ' || c = '\t'

/-- What may stand in a comment or, quotes and escapes apart, in a string: everything
but control characters, and the tab. -/
def isPrintable (c : Char) : Bool :=
  c = '\t' || (0x20 ≤ c.toNat && c.toNat != 0x7F)

/-- The character with a code point, unless it is a surrogate or too big. -/
def charOfCode? (n : Nat) : Option Char :=
  if n.isValidChar then some (Char.ofNat n) else none

/-- The escapes that are one letter or sign. -/
def simpleEscape? : Char → Option Char
  | 'b' => some '\x08'
  | 't' => some '\t'
  | 'n' => some '\n'
  | 'f' => some '\x0c'
  | 'r' => some '\r'
  | '"' => some '"'
  | '\\' => some '\\'
  | _ => none

/-! ## Basic strings -/

/-- Where a reader of a basic string stands. -/
inductive Mode where
  /-- Between characters. -/
  | plain
  /-- Behind a backslash. -/
  | escape
  /-- Inside a code point with so many digits to come after the next one. -/
  | code (missing value : Nat)
  /-- Behind a backslash that ends its line, `past` that line or not. -/
  | fold (past : Bool)
  /-- Behind that many quotes. -/
  | quotes (count : Nat)
  deriving Repr, DecidableEq

/-- What a character adds to the string, and where the reader stands afterwards. -/
abbrev Move := Option (List Char × Mode)

/-- The character behind a backslash. -/
def escapeMove (c : Char) : Move :=
  if c = 'u' then some ([], .code 3 0)
  else if c = 'U' then some ([], .code 7 0)
  else (simpleEscape? c).map fun e => ([e], .plain)

/-- A digit of a code point. -/
def codeMove (missing value : Nat) (c : Char) : Move :=
  (digitValue? 16 c).bind fun d =>
    match missing with
    | 0 => (charOfCode? (16 * value + d)).map fun e => ([e], .plain)
    | m + 1 => some ([], .code m (16 * value + d))

/-- Puts text before what a reader found. -/
def prepend (text : List Char) (found : Option (List Char × List Char)) :
    Option (List Char × List Char) :=
  found.map fun r => (text ++ r.1, r.2)

/-- Reads a basic string on one line. -/
def readBasicFrom : Mode → List Char → Option (List Char × List Char)
  | _, [] => none
  | mode, c :: rest =>
    match mode with
    | .escape => (escapeMove c).bind fun m => prepend m.1 (readBasicFrom m.2 rest)
    | .code missing value =>
      (codeMove missing value c).bind fun m => prepend m.1 (readBasicFrom m.2 rest)
    | _ =>
      if c = '"' then some ([], rest)
      else if c = '\\' then readBasicFrom .escape rest
      else if isPrintable c then prepend [c] (readBasicFrom .plain rest)
      else none

/-- A character between characters of a basic string on several lines. -/
def plainMove (c : Char) : Move :=
  if c = '"' then some ([], .quotes 1)
  else if c = '\\' then some ([], .escape)
  else if c = '\n' || isPrintable c then some ([c], .plain)
  else none

/-- A character of a basic string on several lines, not behind quotes. -/
def multilineMove (c : Char) : Mode → Move
  | .escape =>
    if isBlank c then some ([], .fold false)
    else if c = '\n' then some ([], .fold true)
    else escapeMove c
  | .code missing value => codeMove missing value c
  | .fold past =>
    if isBlank c then some ([], .fold past)
    else if c = '\n' then some ([], .fold true)
    else if past then plainMove c
    else none
  | _ => plainMove c

/-- Reads a basic string on several lines. -/
def readMultilineFrom : Mode → List Char → Option (List Char × List Char)
  | .quotes n, [] => if 3 ≤ n then some (List.replicate (n - 3) '"', []) else none
  | _, [] => none
  | .quotes n, c :: rest =>
    if c = '"' then
      if n = 4 then some (['"', '"'], rest) else readMultilineFrom (.quotes (n + 1)) rest
    else if 3 ≤ n then some (List.replicate (n - 3) '"', c :: rest)
    else (plainMove c).bind fun m =>
      prepend (List.replicate n '"' ++ m.1) (readMultilineFrom m.2 rest)
  | mode, c :: rest =>
    (multilineMove c mode).bind fun m => prepend m.1 (readMultilineFrom m.2 rest)

/-! ## Literal strings -/

/-- Reads a literal string on one line. -/
def readLiteral : List Char → Option (List Char × List Char)
  | [] => none
  | c :: rest =>
    if c = '\'' then some ([], rest)
    else if isPrintable c then prepend [c] (readLiteral rest)
    else none

/-- Reads a literal string on several lines, behind `count` quotes. -/
def readMultilineLiteralFrom : (count : Nat) → List Char → Option (List Char × List Char)
  | n, [] => if 3 ≤ n then some (List.replicate (n - 3) '\'', []) else none
  | n, c :: rest =>
    if c = '\'' then
      if n = 4 then some (['\'', '\''], rest) else readMultilineLiteralFrom (n + 1) rest
    else if 3 ≤ n then some (List.replicate (n - 3) '\'', c :: rest)
    else if c = '\n' || isPrintable c then
      prepend (List.replicate n '\'' ++ [c]) (readMultilineLiteralFrom 0 rest)
    else none

/-! ## All strings -/

/-- A newline right behind the opening quotes does not count. -/
def dropNewline : List Char → List Char
  | c :: rest => if c = '\n' then rest else c :: rest
  | [] => []

/-- Reads a string of any kind, with its quotes. -/
def readString : List Char → Option (List Char × List Char)
  | '"' :: '"' :: '"' :: rest => readMultilineFrom .plain (dropNewline rest)
  | '"' :: rest => readBasicFrom .plain rest
  | '\'' :: '\'' :: '\'' :: rest => readMultilineLiteralFrom 0 (dropNewline rest)
  | '\'' :: rest => readLiteral rest
  | _ => none

end RemotePad.Toml
