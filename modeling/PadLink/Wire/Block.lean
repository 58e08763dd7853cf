import PadLink.Gamepad

set_option autoImplicit false

/-! # Slot blocks

A state reply gives every slot a block of eleven bytes:

* byte 0 is the reply's header in the first block and unused in the others;
* byte 1 is not zero when a controller is present;
* bytes 2 and 3 have one bit for each button outside the directional pad;
* byte 4 is the octant of the directional pad, 1 to 8 clockwise from up, anything else at rest;
* bytes 5 to 8 are the stick axes, left before right and x before y;
* bytes 9 and 10 are the left and the right trigger.

`Block.shows` reads one button off the bytes, and `Block.gamepad` is the whole gamepad. -/

namespace PadLink

/-- The bytes of one slot in a state reply. -/
abbrev Block := Vector UInt8 11

namespace Block

/-- The number of bytes in a block. -/
def size : Nat := 11

/-- Whether a controller is present on the slot. -/
def isFlagged (block : Block) : Bool := block[1] != 0

/-! ## Buttons -/

/-- The one or two buttons of the directional pad that an octant stands for. -/
def octantButtons : UInt8 → List Button
  | 1 => [.dpadUp]
  | 2 => [.dpadUp, .dpadRight]
  | 3 => [.dpadRight]
  | 4 => [.dpadRight, .dpadDown]
  | 5 => [.dpadDown]
  | 6 => [.dpadDown, .dpadLeft]
  | 7 => [.dpadLeft]
  | 8 => [.dpadLeft, .dpadUp]
  | _ => []

/-- The button word of an octant alone. -/
def octantWord (octant : UInt8) : UInt16 := Button.word fun btn => btn ∈ octantButtons octant

/-- Whether the block shows the button pressed. -/
def shows (block : Block) : Button → Bool
  | .a => block[2].toBitVec.getLsbD 0
  | .b => block[2].toBitVec.getLsbD 1
  | .x => block[2].toBitVec.getLsbD 2
  | .y => block[2].toBitVec.getLsbD 3
  | .rightShoulder => block[2].toBitVec.getLsbD 4
  | .leftShoulder => block[2].toBitVec.getLsbD 5
  | .leftThumb => block[2].toBitVec.getLsbD 6
  | .rightThumb => block[2].toBitVec.getLsbD 7
  | .start => block[3].toBitVec.getLsbD 0
  | .back => block[3].toBitVec.getLsbD 1
  | .dpadUp => Button.dpadUp ∈ octantButtons block[4]
  | .dpadDown => Button.dpadDown ∈ octantButtons block[4]
  | .dpadLeft => Button.dpadLeft ∈ octantButtons block[4]
  | .dpadRight => Button.dpadRight ∈ octantButtons block[4]

/-! ## Axes and the whole gamepad -/

/-- The axis value of an axis byte: 0 to 255 is spread evenly over -32768 to 32767. The byte 128
    stands just above the middle, at 128. -/
def scaleAxis (raw : UInt8) : Int16 := (-32768 + Int32.ofNat raw.toNat * 65535 / 255).toInt16

/-- The scale goes up in steps of 257. It neither wraps nor rounds. -/
theorem toInt_scaleAxis (raw : UInt8) : (scaleAxis raw).toInt = 257 * raw.toNat - 32768 := by
  have hraw := raw.toNat_lt
  have hproduct : (Int32.ofNat raw.toNat * 65535).toInt = 65535 * raw.toNat := by
    rw [Int32.toInt_mul, Int32.toInt_ofNat_of_lt (by omega),
      show (65535 : Int32).toInt = 65535 from rfl, Int.bmod_eq_of_le] <;> omega
  -- The division leaves no rest, since 65535 is 255 times 257.
  have hquotient : (Int32.ofNat raw.toNat * 65535 / 255).toInt = 257 * raw.toNat := by
    rw [Int32.toInt_div, hproduct, show (255 : Int32).toInt = 255 from rfl,
      Int.tdiv_eq_ediv_of_nonneg (by omega), Int.bmod_eq_of_le] <;> omega
  have hsum : (-32768 + Int32.ofNat raw.toNat * 65535 / 255).toInt = 257 * raw.toNat - 32768 := by
    rw [Int32.toInt_add, hquotient, show (-32768 : Int32).toInt = -32768 from rfl,
      Int.bmod_eq_of_le] <;> omega
  rw [scaleAxis, Int32.toInt_toInt16, hsum, Int.bmod_eq_of_le] <;> omega

/-- The gamepad that a block shows. -/
def gamepad (block : Block) : Gamepad where
  buttons := Button.word block.shows
  leftTrigger := block[9]
  rightTrigger := block[10]
  leftStick := { x := scaleAxis block[5], y := scaleAxis block[6] }
  rightStick := { x := scaleAxis block[7], y := scaleAxis block[8] }

theorem isDown_gamepad (block : Block) (button : Button) :
    block.gamepad.isDown button = block.shows button :=
  Gamepad.isDown_word rfl button

end Block

end PadLink
