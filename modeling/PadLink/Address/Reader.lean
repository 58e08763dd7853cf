import PadLink.Address.Basic

set_option autoImplicit false

/-! # Reading network addresses

Readers for the texts that `PadLink.Address.Basic` writes, and for the other texts that mean an
address: capital hexadecimal digits, groups with leading zeros, runs of zeros left out elsewhere or
not at all, an IPv4 address in the place of the last two groups. A number in an IPv4 address has at
most three digits and no leading zero; a group has at most four digits; a port and a scope may have
any number of digits as long as the value fits.

A scanner reads from the front of a text and gives back what it left; a reader accepts only if
nothing is left. Blanks are not skipped anywhere. -/

namespace PadLink

/-! ## Scanners -/

/-- Take one given character off the text. -/
def scanChar? (c : Char) : List Char → Option (List Char)
  | [] => none
  | d :: rest => if d = c then some rest else none

namespace IPv4

/-- One of the four numbers: at most three digits, and no leading zero. -/
def scanOctet? (text : List Char) : Option (UInt8 × List Char) :=
  (Digits.scanNumber? 10 256
    (fun digits => digits.length ≤ 3 && (digits.length == 1 || digits.head? != some '0')) text).map
    fun (n, rest) => (UInt8.ofNat n, rest)

/-- An IPv4 address at the front of the text. -/
def scan? (text : List Char) : Option (IPv4 × List Char) := do
  let (a, text) ← scanOctet? text
  let (b, text) ← scanOctet? (← scanChar? '.' text)
  let (c, text) ← scanOctet? (← scanChar? '.' text)
  let (d, text) ← scanOctet? (← scanChar? '.' text)
  return (⟨a, b, c, d⟩, text)

end IPv4

namespace IPv6

/-- One group: at most four digits. -/
def scanGroup? (text : List Char) : Option (UInt16 × List Char) :=
  (Digits.scanNumber? 16 65536 (fun digits => digits.length ≤ 4) text).map
    fun (n, rest) => (UInt16.ofNat n, rest)

/-- What a sequence of groups was found to be: the groups, whether it ended in an IPv4 address, and
    the text behind it. -/
structure GroupRun where
  groups : List UInt16
  dotted : Bool
  rest : List Char

/-- As many groups as the text has, up to the room there is. Every group but the first has a colon
    in front. Where there is room for two groups an IPv4 address may stand, and it ends the
    sequence. -/
def scanGroups : (room : Nat) → (isFirst : Bool) → List Char → GroupRun
  | 0, _, text => ⟨[], false, text⟩
  | room + 1, isFirst, text =>
    match if isFirst then some text else scanChar? ':' text with
    | none => ⟨[], false, text⟩
    | some body =>
      -- The dotted form is tried first, since its first number also reads as a group.
      match if 0 < room then IPv4.scan? body else none with
      | some (ip, rest) => ⟨[ip.groups.1, ip.groups.2], true, rest⟩
      | none =>
        match scanGroup? body with
        | none => ⟨[], false, text⟩
        | some (group, rest) =>
          let run := scanGroups room false rest
          { run with groups := group :: run.groups }

/-- An IPv6 address at the front of the text: eight groups, or fewer with two colons in the place of
    at least one zero group. An IPv4 address may stand only at the end. -/
def scan? (text : List Char) : Option (IPv6 × List Char) :=
  let front := scanGroups 8 true text
  if front.groups.length = 8 then some (.ofList front.groups, front.rest)
  else if front.dotted then none
  else
    match front.rest with
    | ':' :: ':' :: text =>
      let back := scanGroups (7 - front.groups.length) true text
      let omitted := 8 - front.groups.length - back.groups.length
      some (.ofList (front.groups ++ List.replicate omitted 0 ++ back.groups), back.rest)
    | _ => none

end IPv6

/-! ## Readers -/

/-- A port, behind its colon. -/
def SocketAddress.scanPort? (text : List Char) : Option (UInt16 × List Char) := do
  let text ← scanChar? ':' text
  let (port, text) ← Digits.scanNumber? 10 65536 (fun _ => true) text
  return (UInt16.ofNat port, text)

/-- A scope, behind its percent sign; without one the scope is zero. -/
def SocketAddress.scanScope (text : List Char) : UInt32 × List Char :=
  match text with
  | '%' :: digits =>
    match Digits.scanNumber? 10 UInt32.size (fun _ => true) digits with
    | some (scope, rest) => (UInt32.ofNat scope, rest)
    | none => (0, text)
  | _ => (0, text)

/-- An IPv4 address with a port. -/
def SocketAddress.scanV4? (text : List Char) : Option (SocketAddress × List Char) := do
  let (ip, text) ← IPv4.scan? text
  let (port, text) ← scanPort? text
  return (.v4 ip port, text)

/-- An IPv6 address in brackets, with a port behind them. -/
def SocketAddress.scanV6? (text : List Char) : Option (SocketAddress × List Char) := do
  let (ip, text) ← IPv6.scan? (← scanChar? '[' text)
  let (scope, text) := scanScope text
  let (port, text) ← scanPort? (← scanChar? ']' text)
  return (.v6 ip scope port, text)

/-- What was scanned, if it is the whole text. -/
def whole? {α : Type} : Option (α × List Char) → Option α
  | some (a, []) => some a
  | _ => none

/-- The address that a text means. -/
def IpAddress.ofText? (text : List Char) : Option IpAddress :=
  whole? (((IPv4.scan? text).map fun (ip, rest) => (IpAddress.v4 ip, rest)).or
    ((IPv6.scan? text).map fun (ip, rest) => (IpAddress.v6 ip, rest)))

/-- The socket address that a text means. -/
def SocketAddress.ofText? (text : List Char) : Option SocketAddress :=
  whole? ((scanV4? text).or (scanV6? text))

end PadLink
