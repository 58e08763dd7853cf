import PadLink.Wire.Block

set_option autoImplicit false

/-! # Datagrams

Everything that crosses the wire is a datagram of 44 bytes whose first byte is its header. The
client sends a probe (header 1) once and then polls (header 2), which carry the motor speeds of the
four slots in bytes 1 to 8. The server answers with a handshake (header 1) or with a state reply
(header 2), which is four slot blocks one behind the other; the header takes the place of the first
block's unused byte.

A received payload of any length counts as its first 44 bytes, or as itself with zeros behind it,
so `Datagram.ofPayload` is total and nothing in a payload can fail. -/

namespace PadLink

/-- The bytes of a message in either direction. -/
abbrev Datagram := Vector UInt8 44

/-- What the server says, judged by the header. -/
inductive Reply where
  | handshake
  | state
  | unknown (header : UInt8)
  deriving DecidableEq, Repr

namespace Datagram

/-- The number of bytes in a datagram: a block for every slot. -/
def size : Nat := slotCount * Block.size

/-- The header of a probe, and of the handshake that answers it. -/
def connectionHeader : UInt8 := 1

/-- The header of a poll, and of the state reply that answers it. -/
def stateHeader : UInt8 := 2

/-! ## Replies -/

/-- The datagram that a received payload stands for: cut to size, or padded with zeros. -/
def ofPayload (payload : List UInt8) : Datagram := Vector.ofFn fun i => payload.getD i 0

theorem getElem_ofPayload (payload : List UInt8) (i : Nat) (h : i < 44) :
    (ofPayload payload)[i] = payload.getD i 0 := by
  simp [ofPayload]

/-- A datagram sent as it is arrives as it is. -/
theorem ofPayload_toList (datagram : Datagram) : ofPayload datagram.toList = datagram := by
  apply Vector.ext
  intro i h
  rw [getElem_ofPayload, List.getD_eq_getElem?_getD, List.getElem?_eq_getElem (by simpa using h)]
  simp

/-- Bytes behind the first 44 do not count. -/
theorem ofPayload_take (payload : List UInt8) {n : Nat} (h : 44 ≤ n) :
    ofPayload (payload.take n) = ofPayload payload := by
  apply Vector.ext
  intro i hi
  rw [getElem_ofPayload, getElem_ofPayload, List.getD_eq_getElem?_getD, List.getD_eq_getElem?_getD,
    List.getElem?_take_of_lt (by omega)]

/-- What kind of reply the datagram is. -/
def reply (datagram : Datagram) : Reply :=
  if datagram[0] = connectionHeader then .handshake
  else if datagram[0] = stateHeader then .state
  else .unknown datagram[0]

/-- The block of a slot. -/
def block (datagram : Datagram) (slot : SlotIndex) : Block :=
  Vector.ofFn fun i => datagram[11 * slot.val + i.val]

theorem getElem_block (datagram : Datagram) (slot : SlotIndex) (i : Nat) (h : i < 11) :
    (datagram.block slot)[i] = datagram[11 * slot.val + i] := by
  simp [block]

/-! ## Requests -/

/-- The motor speed as the wire carries it, in 256 steps, rounded down. -/
def encodeMotor (speed : UInt16) : UInt8 := (speed / 257).toUInt8

theorem toNat_encodeMotor (speed : UInt16) : (encodeMotor speed).toNat = speed.toNat / 257 := by
  have hspeed := speed.toNat_lt
  rw [encodeMotor, UInt16.toNat_toUInt8, UInt16.toNat_div]
  exact Nat.mod_eq_of_lt (by show speed.toNat / 257 < 256; omega)

/-- The first message of a session. -/
def probe : Datagram := Vector.ofFn fun i => if i.val = 0 then connectionHeader else 0

/-- The request for the state, with the motor speeds of every slot, left before right. -/
def poll (vibrations : Vector Vibration 4) : Datagram :=
  Vector.ofFn fun i =>
    if i.val = 0 then stateHeader
    else if h : i.val < 9 then
      let vibration := vibrations[(i.val - 1) / 2]
      encodeMotor (if i.val % 2 = 1 then vibration.leftMotor else vibration.rightMotor)
    else 0

end Datagram

end PadLink
