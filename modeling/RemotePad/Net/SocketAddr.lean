import RemotePad.Text.Joined
import RemotePad.Text.Numeral

/-!
# Socket addresses

An address of a host, either of four bytes or of eight 16-bit groups, with a port.

* `SocketAddr.text` is the written form.  Groups are written in base sixteen, and
  the first of the longest runs of at least two zero groups is written `::`.
* An address of groups that carries a four-byte address (`Ipv6.mapped?`) shows that
  address in its own notation.
* A scope number stands behind a percent sign unless it is zero.
-/

namespace RemotePad

/-! ## Types -/

/-- An address of four bytes. -/
structure Ipv4 where
  a : UInt8
  b : UInt8
  c : UInt8
  d : UInt8
  deriving Repr, DecidableEq

/-- An address of eight groups. -/
structure Ipv6 where
  groups : List UInt16
  length_eq : groups.length = 8
  deriving Repr, DecidableEq

/-- An address with a port. -/
inductive SocketAddr where
  | v4 (ip : Ipv4) (port : UInt16)
  | v6 (ip : Ipv6) (scope : UInt32) (port : UInt16)
  deriving Repr, DecidableEq

/-- The address with the given groups, if there are eight. -/
def Ipv6.ofGroups? (groups : List UInt16) : Option Ipv6 :=
  if h : groups.length = 8 then some ⟨groups, h⟩ else none

/-- The host itself. -/
def Ipv4.loopback : Ipv4 := ⟨127, 0, 0, 1⟩

/-! ## Groups and bytes -/

/-- Two bytes as one group, the first one high. -/
def groupOfBytes (hi lo : UInt8) : UInt16 :=
  UInt16.ofNat (256 * hi.toNat + lo.toNat)

/-- The last two groups of an address that ends in a four-byte address. -/
def Ipv4.groups (ip : Ipv4) : List UInt16 :=
  [groupOfBytes ip.a ip.b, groupOfBytes ip.c ip.d]

/-- The four-byte address that two groups stand for. -/
def Ipv4.ofGroups (hi lo : UInt16) : Ipv4 where
  a := UInt8.ofNat (hi.toNat / 256)
  b := UInt8.ofNat (hi.toNat % 256)
  c := UInt8.ofNat (lo.toNat / 256)
  d := UInt8.ofNat (lo.toNat % 256)

/-- The four-byte address behind the fixed beginning `::ffff`. -/
def Ipv6.mapped? (ip : Ipv6) : Option Ipv4 :=
  match ip.groups with
  | [0, 0, 0, 0, 0, 0xFFFF, hi, lo] => some (.ofGroups hi lo)
  | _ => none

/-! ## Written forms -/

/-- Four decimal numbers with points between them. -/
def Ipv4.text (ip : Ipv4) : List Char :=
  joinWith '.' ([ip.a, ip.b, ip.c, ip.d].map fun b => decimal b.toNat)

/-- Groups in base sixteen with colons between them. -/
def groupsText (groups : List UInt16) : List Char :=
  joinWith ':' (groups.map fun g => numeral 16 g.toNat)

/-- Number of zero groups from a place on. -/
def zerosFrom (groups : List UInt16) (start : Nat) : Nat :=
  ((groups.drop start).takeWhile (· = 0)).length

/-- Start and length of the longest run of zero groups, the first one if there are
several. -/
def longestZeroRun (groups : List UInt16) : Nat × Nat :=
  (List.range groups.length).foldl
    (fun best i => if best.2 < zerosFrom groups i then (i, zerosFrom groups i) else best) (0, 0)

/-- The written form of an address of groups. -/
def Ipv6.text (ip : Ipv6) : List Char :=
  match ip.mapped? with
  | some v4 => "::ffff:".toList ++ v4.text
  | none =>
    let run := longestZeroRun ip.groups
    if 1 < run.2 then
      groupsText (ip.groups.take run.1) ++ "::".toList ++
        groupsText (ip.groups.drop (run.1 + run.2))
    else groupsText ip.groups

/-- The scope behind an address; a zero scope is not written. -/
def scopeText (scope : UInt32) : List Char :=
  if scope = 0 then [] else '%' :: decimal scope.toNat

/-- The written form of a socket address. -/
def SocketAddr.chars : SocketAddr → List Char
  | .v4 ip port => ip.text ++ ':' :: decimal port.toNat
  | .v6 ip scope port =>
    '[' :: ip.text ++ scopeText scope ++ "]:".toList ++ decimal port.toNat

/-- The written form of a socket address, as a string. -/
def SocketAddr.text (a : SocketAddr) : String :=
  String.ofList a.chars

end RemotePad
