import PadLink.Text.Digits

set_option autoImplicit false

/-! # Network addresses

IPv4 and IPv6 addresses, alone or with a port, and the text of each. An IPv4 address is four
decimal numbers with dots. An IPv6 address is eight groups in hexadecimal with colons, where the
first of the longest runs of zero groups is left out if it is longer than one group; an address
that carries an IPv4 address in its last two groups, behind `ffff`, ends in that address' text. A
socket address puts IPv6 in brackets, with the scope in front of the closing one unless it is
zero. -/

namespace PadLink

/-! ## Addresses -/

/-- An IPv4 address, the first number first. -/
structure IPv4 where
  a : UInt8
  b : UInt8
  c : UInt8
  d : UInt8
  deriving DecidableEq, Repr

/-- An IPv6 address as eight groups of sixteen bits. -/
structure IPv6 where
  groups : Vector UInt16 8
  deriving DecidableEq, Repr

/-- An address of either kind. -/
inductive IpAddress where
  | v4 (ip : IPv4)
  | v6 (ip : IPv6)
  deriving DecidableEq, Repr

/-- An address with a port, and for IPv6 with the scope in which the address is meant. -/
inductive SocketAddress where
  | v4 (ip : IPv4) (port : UInt16)
  | v6 (ip : IPv6) (scope : UInt32) (port : UInt16)
  deriving DecidableEq, Repr

/-- The port at an address. -/
def SocketAddress.ofIp (port : UInt16) : IpAddress → SocketAddress
  | .v4 ip => .v4 ip port
  | .v6 ip => .v6 ip 0 port

/-- The address of the machine itself. -/
def IPv4.localhost : IPv4 := ⟨127, 0, 0, 1⟩

/-- The address that stands for all of the machine's addresses. -/
def IPv4.unspecified : IPv4 := ⟨0, 0, 0, 0⟩

/-- The upper and the lower half of an IPv4 address, as two groups. -/
def IPv4.groups (ip : IPv4) : UInt16 × UInt16 :=
  (ip.a.toUInt16 * 256 + ip.b.toUInt16, ip.c.toUInt16 * 256 + ip.d.toUInt16)

/-- The IPv4 address of two groups. -/
def IPv4.ofGroups (high low : UInt16) : IPv4 :=
  ⟨(high / 256).toUInt8, high.toUInt8, (low / 256).toUInt8, low.toUInt8⟩

/-- The address with the given groups, with zeros behind them if they are too few. -/
def IPv6.ofList (groups : List UInt16) : IPv6 := ⟨Vector.ofFn fun i => groups.getD i 0⟩

theorem IPv6.ofList_toList (ip : IPv6) : IPv6.ofList ip.groups.toList = ip := by
  obtain ⟨groups⟩ := ip
  simp only [ofList, IPv6.mk.injEq]
  apply Vector.ext
  intro i hi
  simp [List.getD_eq_getElem?_getD]

/-! ## Texts -/

/-- The text of an IPv4 address. -/
def IPv4.text (ip : IPv4) : List Char :=
  Nat.toDigits 10 ip.a.toNat ++ '.' :: Nat.toDigits 10 ip.b.toNat
    ++ '.' :: Nat.toDigits 10 ip.c.toNat ++ '.' :: Nat.toDigits 10 ip.d.toNat

namespace IPv6

/-- The text of a sequence of groups. -/
def groupsText : List UInt16 → List Char
  | [] => []
  | [group] => Nat.toDigits 16 group.toNat
  | group :: rest => Nat.toDigits 16 group.toNat ++ ':' :: groupsText rest

/-- How many zero groups follow each other from a place on. -/
def zeroRun (groups : List UInt16) (start : Nat) : Nat :=
  ((groups.drop start).takeWhile (· == 0)).length

/-- The place of the first of the longest runs of zero groups. -/
def longestZeroRun (groups : List UInt16) : Nat :=
  (List.range groups.length).foldl
    (fun best start => if zeroRun groups best < zeroRun groups start then start else best) 0

/-- The IPv4 address that the IPv6 address carries, if it has the form for it. -/
def mapped? (ip : IPv6) : Option IPv4 :=
  match ip.groups.toList with
  | [0, 0, 0, 0, 0, 0xffff, high, low] => some (.ofGroups high low)
  | _ => none

/-- The text of an IPv6 address. -/
def text (ip : IPv6) : List Char :=
  match ip.mapped? with
  | some carried => "::ffff:".toList ++ carried.text
  | none =>
    let groups := ip.groups.toList
    let start := longestZeroRun groups
    let run := zeroRun groups start
    if 1 < run then
      groupsText (groups.take start) ++ ':' :: ':' :: groupsText (groups.drop (start + run))
    else groupsText groups

end IPv6

/-- The text of an address. -/
def IpAddress.text : IpAddress → List Char
  | .v4 ip => ip.text
  | .v6 ip => ip.text

/-- The text of a socket address. -/
def SocketAddress.text : SocketAddress → List Char
  | .v4 ip port => ip.text ++ ':' :: Nat.toDigits 10 port.toNat
  | .v6 ip scope port =>
    let scopeText := if scope = 0 then [] else '%' :: Nat.toDigits 10 scope.toNat
    '[' :: ip.text ++ scopeText ++ ']' :: ':' :: Nat.toDigits 10 port.toNat

/-- The text of a socket address as a string. -/
def SocketAddress.render (address : SocketAddress) : String := String.ofList address.text

/-- The text of an address as a string. -/
def IpAddress.render (address : IpAddress) : String := String.ofList address.text

end PadLink
