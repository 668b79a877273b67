import RemotePad.Net.SocketAddr

/-!
# Reading socket addresses

`SocketAddr.parse?` reads the written forms of an address with a port and nothing
else.

* A byte has at most three digits and no leading zero, a group at most four digits.
* `::` stands for at least one zero group and occurs at most once.
* The last two groups may be written as a four-byte address.
* Port and scope have any number of digits, as long as the number fits.

Every reader takes a beginning of the text and hands on the rest.
-/

namespace RemotePad

/-! ## Parts -/

/-- Reads one given character. -/
def readChar (c : Char) : List Char → Option (List Char)
  | [] => none
  | d :: rest => if d = c then some rest else none

/-- Reads all digits that follow.  There must be at least one, at most `maxDigits`
if that is given, no leading zero unless `zeros` allows it, and the number must be
at most `bound`. -/
def readNumber (base : Nat) (maxDigits : Option Nat) (zeros : Bool) (bound : Nat)
    (text : List Char) : Option (Nat × List Char) :=
  let digits := text.takeWhile (isDigitOf base)
  let rest := text.dropWhile (isDigitOf base)
  if digits = [] then none
  else if maxDigits.any (· < digits.length) then none
  else if !zeros && digits.head? == some '0' && 1 < digits.length then none
  else if bound < valueOf base digits then none
  else some (valueOf base digits, rest)

/-- Reads a byte of a four-byte address. -/
def readOctet (text : List Char) : Option (UInt8 × List Char) :=
  (readNumber 10 (some 3) false 255 text).map fun (n, rest) => (UInt8.ofNat n, rest)

/-- Reads a four-byte address. -/
def readIpv4 (text : List Char) : Option (Ipv4 × List Char) := do
  let (a, rest) ← readOctet text
  let (b, rest) ← readOctet (← readChar '.' rest)
  let (c, rest) ← readOctet (← readChar '.' rest)
  let (d, rest) ← readOctet (← readChar '.' rest)
  return (⟨a, b, c, d⟩, rest)

/-- Reads one group. -/
def readGroup (text : List Char) : Option (UInt16 × List Char) :=
  (readNumber 16 (some 4) true 65535 text).map fun (n, rest) => (UInt16.ofNat n, rest)

/-- Groups that were read, whether the last two were a four-byte address, and the
rest of the text. -/
structure GroupsRead where
  groups : List UInt16
  endsInIpv4 : Bool
  rest : List Char
  deriving Repr, DecidableEq

/-- Reads up to `room` groups with colons between them; `first` says that no colon
stands before the next one.  A four-byte address needs room for two groups and
ends the reading. -/
def readGroups : (room : Nat) → (first : Bool) → List Char → GroupsRead
  | 0, _, text => ⟨[], false, text⟩
  | room + 1, first, text =>
    let start := if first then some text else readChar ':' text
    let embedded := if 0 < room then start.bind readIpv4 else none
    match embedded with
    | some (ip, rest) => ⟨ip.groups, true, rest⟩
    | none =>
      match start.bind readGroup with
      | some (g, rest) =>
        let more := readGroups room false rest
        ⟨g :: more.groups, more.endsInIpv4, more.rest⟩
      | none => ⟨[], false, text⟩

/-- Reads an address of groups: eight of them, or fewer around a `::`. -/
def readIpv6 (text : List Char) : Option (Ipv6 × List Char) :=
  let head := readGroups 8 true text
  if head.groups.length = 8 then
    (Ipv6.ofGroups? head.groups).map fun ip => (ip, head.rest)
  else if head.endsInIpv4 then none
  else do
    let afterGap ← (readChar ':' head.rest).bind (readChar ':')
    let tail := readGroups (7 - head.groups.length) true afterGap
    let zeros := List.replicate (8 - head.groups.length - tail.groups.length) 0
    let ip ← Ipv6.ofGroups? (head.groups ++ zeros ++ tail.groups)
    return (ip, tail.rest)

/-- Reads a port behind a colon. -/
def readPort (text : List Char) : Option (UInt16 × List Char) := do
  let (n, rest) ← readNumber 10 none true 65535 (← readChar ':' text)
  return (UInt16.ofNat n, rest)

/-- Reads a scope behind a percent sign. -/
def readScope (text : List Char) : Option (UInt32 × List Char) := do
  let (n, rest) ← readNumber 10 none true 4294967295 (← readChar '%' text)
  return (UInt32.ofNat n, rest)

/-! ## Whole addresses -/

/-- Reads a four-byte address with a port. -/
def readSocketV4 (text : List Char) : Option (SocketAddr × List Char) := do
  let (ip, rest) ← readIpv4 text
  let (port, rest) ← readPort rest
  return (.v4 ip port, rest)

/-- Reads an address of groups in brackets, with or without a scope, and a port. -/
def readSocketV6 (text : List Char) : Option (SocketAddr × List Char) := do
  let (ip, rest) ← readIpv6 (← readChar '[' text)
  let (scope, rest) := (readScope rest).getD (0, rest)
  let (port, rest) ← readPort (← readChar ']' rest)
  return (.v6 ip scope port, rest)

/-- Reads a whole text as a socket address. -/
def SocketAddr.parse? (text : List Char) : Option SocketAddr :=
  match (readSocketV4 text).orElse fun _ => readSocketV6 text with
  | some (a, []) => some a
  | _ => none

end RemotePad
