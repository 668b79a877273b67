import RemotePad.Toml.Numbers
import RemotePad.Toml.Strings

/-!
# TOML documents

`Toml.parse?` reads a document as the entries of its root table.  A document is a
sequence of lines: a value under a dotted key, a header that opens a table, or a
header that opens an element of an array of tables.  Values that are not inside
brackets end with their line.

* A dotted key has fewer than 80 parts, and arrays and inline tables nest less than
  80 deep (`nestingLimit`).
* The readers of values are bounded by the length of the text.
-/

namespace RemotePad.Toml

/-- Bound on the parts of a key and on nesting. -/
def nestingLimit : Nat := 80

/-! ## Blanks and comments -/

/-- Drops blanks inside a line. -/
def skipBlanks (text : List Char) : List Char :=
  text.dropWhile isBlank

/-- Drops blanks, line ends and comments; `comment` says that the text starts inside a
comment. -/
def skipSpace : (comment : Bool) → List Char → List Char
  | _, [] => []
  | false, c :: rest =>
    if isBlank c || c = '\n' then skipSpace false rest
    else if c = '#' then skipSpace true rest
    else c :: rest
  | true, c :: rest =>
    if c = '\n' then skipSpace false rest
    else if isPrintable c then skipSpace true rest
    else c :: rest

/-- Drops a comment at the beginning of a text. -/
def dropComment : List Char → List Char
  | c :: rest => if c = '#' then rest.dropWhile isPrintable else c :: rest
  | [] => []

/-- Reads the end of a line: blanks, a comment, and a newline or the end of the text. -/
def readLineEnd (text : List Char) : Option (List Char) :=
  match dropComment (skipBlanks text) with
  | [] => some []
  | c :: rest => if c = '\n' then some rest else none

/-! ## Keys -/

/-- What a key without quotes consists of. -/
def isBareChar (c : Char) : Bool :=
  ('a' ≤ c && c ≤ 'z') || ('A' ≤ c && c ≤ 'Z') || ('0' ≤ c && c ≤ '9') || c = '-' || c = '_'

/-- Reads one part of a key: a string on one line, or bare characters. -/
def readKeyPart : List Char → Option (Key × List Char)
  | [] => none
  | c :: rest =>
    if c = '"' then readBasicFrom .plain rest
    else if c = '\'' then readLiteral rest
    else if isBareChar c then
      some ((c :: rest).takeWhile isBareChar, (c :: rest).dropWhile isBareChar)
    else none

/-- Reads a dotted key of at most `room` parts, with blanks around each part. -/
def readKeyPath : (room : Nat) → List Char → Option (List Key × List Char)
  | 0, _ => none
  | room + 1, text =>
    (readKeyPart (skipBlanks text)).bind fun (part, rest) =>
      match skipBlanks rest with
      | '.' :: rest => (readKeyPath room rest).map fun (parts, rest) => (part :: parts, rest)
      | rest => some ([part], rest)

/-- Reads a dotted key and an equals sign. -/
def readKeyOfValue (text : List Char) : Option (List Key × List Char) := do
  let (path, rest) ← readKeyPath (nestingLimit - 1) text
  return (path, skipBlanks (← readSymbol '=' rest))

/-! ## Values -/

/-- Reads a word that stands for a value. -/
def readWord (word : List Char) (v : Value) (text : List Char) : Option (Value × List Char) :=
  if text.take word.length = word then some (v, text.drop word.length) else none

/-- Reads a value without brackets. -/
def readPlainValue : List Char → Option (Value × List Char)
  | [] => none
  | c :: rest =>
    if c = '"' || c = '\'' then
      (readString (c :: rest)).map fun r => (.string r.1, r.2)
    else if c = 't' then readWord "true".toList (.boolean true) (c :: rest)
    else if c = 'f' then readWord "false".toList (.boolean false) (c :: rest)
    else if c = '+' || c = '-' || isDigitOf 10 c || c = 'i' || c = 'n' then
      readNumeric (c :: rest)
    else none

mutual

/-- Reads a value; `depth` bounds the nesting, `fuel` the steps. -/
def readValue : (fuel depth : Nat) → List Char → Option (Value × List Char)
  | 0, _, _ => none
  | fuel + 1, depth, text =>
    match text, depth with
    | '[' :: _, 0 => none
    | '{' :: _, 0 => none
    | '[' :: rest, depth + 1 =>
      (readItems fuel depth rest).map fun r => (.array r.1, r.2)
    | '{' :: rest, depth + 1 =>
      match skipBlanks rest with
      | '}' :: rest => some (.table .inline [], rest)
      | rest => (readPairs fuel depth [] rest).map fun r => (.table .inline r.1, r.2)
    | _, _ => readPlainValue text

/-- Reads the items of an array up to the closing bracket. -/
def readItems : (fuel depth : Nat) → List Char → Option (List Value × List Char)
  | 0, _, _ => none
  | fuel + 1, depth, text =>
    match skipSpace false text with
    | ']' :: rest => some ([], rest)
    | text =>
      (readValue fuel depth text).bind fun (v, rest) =>
        match skipSpace false rest with
        | ']' :: rest => some ([v], rest)
        | ',' :: rest => (readItems fuel depth rest).map fun r => (v :: r.1, r.2)
        | _ => none

/-- Reads the entries of an inline table up to the closing brace. -/
def readPairs : (fuel depth : Nat) → Entries → List Char → Option (Entries × List Char)
  | 0, _, _, _ => none
  | fuel + 1, depth, entries, text =>
    (readKeyOfValue text).bind fun (path, rest) =>
      (readValue fuel depth rest).bind fun (v, rest) =>
        (insert path v entries).bind fun entries =>
          match skipBlanks rest with
          | '}' :: rest => some (entries, rest)
          | ',' :: rest => readPairs fuel depth entries rest
          | _ => none

end

/-! ## Lines -/

/-- A document as far as it was read: its root table, and the path of the table that
the last header opened. -/
structure Draft where
  root : Entries := []
  current : List Key := []

/-- Reads a header up to its closing text, and the end of its line. -/
def readHeader (closing : List Char) (text : List Char) : Option (List Key × List Char) := do
  let (path, rest) ← readKeyPath (nestingLimit - 1) text
  if rest.take closing.length = closing then
    return (path, ← readLineEnd (rest.drop closing.length))
  else none

/-- Reads a line with a key and a value. -/
def readAssignment (draft : Draft) (text : List Char) : Option (Draft × List Char) := do
  let (path, rest) ← readKeyOfValue text
  let (v, rest) ← readValue (2 * text.length + 2) (nestingLimit - 1) rest
  let rest ← readLineEnd rest
  let root ← modifyAt draft.current (insert path v) draft.root
  return ({ draft with root := root }, rest)

/-- Reads one line that is not blank. -/
def readLine (draft : Draft) : List Char → Option (Draft × List Char)
  | '#' :: rest => (readLineEnd ('#' :: rest)).map fun rest => (draft, rest)
  | '[' :: '[' :: rest => do
    let (path, rest) ← readHeader [']', ']'] rest
    return ({ root := ← openElement path draft.root, current := path }, rest)
  | '[' :: rest => do
    let (path, rest) ← readHeader [']'] rest
    return ({ root := ← openTable path draft.root, current := path }, rest)
  | text => readAssignment draft text

/-- Reads lines to the end of the text. -/
def readLines : (fuel : Nat) → Draft → List Char → Option Entries
  | 0, _, _ => none
  | fuel + 1, draft, text =>
    match skipBlanks text with
    | [] => some draft.root
    | c :: rest =>
      if c = '\n' then readLines fuel draft rest
      else (readLine draft (c :: rest)).bind fun (draft, rest) => readLines fuel draft rest

/-- Drops a byte order mark at the beginning. -/
def dropMark : List Char → List Char
  | c :: rest => if c = '\uFEFF' then rest else c :: rest
  | [] => []

/-- Reads a whole document. -/
def parse? (text : List Char) : Option Entries :=
  let text := unifyNewlines (dropMark text)
  readLines (text.length + 1) {} text

end RemotePad.Toml
