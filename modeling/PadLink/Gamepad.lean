set_option autoImplicit false

/-! # The gamepad and what is known of one

A gamepad is what a controller shows at one instant: sixteen button bits, two triggers and two
sticks. Around it stand the values that are kept or reported per controller: the counted state,
the two motor speeds, and the capabilities that every controller behind the input server has.

The buttons are one word, because that word is what queries report. Fourteen of its bits have a
`Button`; bit 10 is the guide button, which no wire block can set and which has no key; bit 11 is
unused. `Gamepad.isDown` and `Gamepad.setButton` read and write one bit, and the lemmas behind
them say that a write changes its own bit and no other. The triggers and the sticks come in pairs,
so they are read and written through a `Side`. -/

namespace PadLink

/-! ## Slots -/

/-- One of the four places for a controller. -/
abbrev SlotIndex := Fin 4

/-- The number of controllers that can be present at once. -/
def slotCount : Nat := 4

/-- Every slot, in ascending order. -/
def SlotIndex.all : List SlotIndex := [0, 1, 2, 3]

theorem SlotIndex.mem_all (slot : SlotIndex) : slot ∈ SlotIndex.all := by
  revert slot
  decide

theorem SlotIndex.nodup_all : SlotIndex.all.Nodup := by decide

/-! ## Buttons and sides -/

/-- The buttons that can be reported as keys, in the order in which their changes are reported. -/
inductive Button where
  | dpadUp | dpadDown | dpadLeft | dpadRight
  | start | back
  | leftThumb | rightThumb
  | leftShoulder | rightShoulder
  | a | b | x | y
  deriving DecidableEq, Repr

namespace Button

/-- Every button, in reporting order. -/
def all : List Button :=
  [dpadUp, dpadDown, dpadLeft, dpadRight, start, back, leftThumb, rightThumb,
   leftShoulder, rightShoulder, a, b, x, y]

theorem mem_all (button : Button) : button ∈ all := by
  cases button <;> decide

theorem nodup_all : all.Nodup := by decide

/-- The place of the button's bit in the button word. -/
def bit : Button → Nat
  | dpadUp => 0 | dpadDown => 1 | dpadLeft => 2 | dpadRight => 3
  | start => 4 | back => 5
  | leftThumb => 6 | rightThumb => 7
  | leftShoulder => 8 | rightShoulder => 9
  | a => 12 | b => 13 | x => 14 | y => 15

theorem bit_lt (button : Button) : button.bit < 16 := by
  cases button <;> decide

theorem bit_inj {button other : Button} (h : button.bit = other.bit) : button = other := by
  revert h
  cases button <;> cases other <;> decide

/-- The word in which only this button's bit is set. -/
def mask (button : Button) : UInt16 := 1 <<< UInt16.ofNat button.bit

/-- A mask has its own bit and no other. -/
theorem getLsbD_mask (button : Button) (i : Nat) :
    button.mask.toBitVec.getLsbD i = decide (i = button.bit) := by
  by_cases h : i < 16
  · have : ∀ k : Fin 16, button.mask.toBitVec.getLsbD k = decide (k.val = button.bit) := by
      cases button <;> decide
    exact this ⟨i, h⟩
  · have hb := button.bit_lt
    rw [BitVec.getLsbD_of_ge _ _ (by omega)]
    exact (decide_eq_false (by omega)).symm

end Button

namespace Button

/-- The word in which exactly the chosen buttons have their bit set. -/
def word (chosen : Button → Bool) : UInt16 :=
  all.foldl (fun w button => if chosen button then w ||| button.mask else w) 0

/-- A bit of the word is set when it belongs to a chosen button. -/
theorem getLsbD_word (chosen : Button → Bool) (i : Nat) :
    (word chosen).toBitVec.getLsbD i = all.any fun button => chosen button && i == button.bit := by
  have fold : ∀ (buttons : List Button) (w : UInt16),
      (buttons.foldl (fun w button => if chosen button then w ||| button.mask else w) w
        ).toBitVec.getLsbD i
      = (w.toBitVec.getLsbD i || buttons.any fun button => chosen button && i == button.bit) := by
    intro buttons
    induction buttons with
    | nil => intro w; simp
    | cons button rest ih =>
      intro w
      rw [List.foldl_cons, ih, List.any_cons]
      cases chosen button
      · simp
      · simp only [if_true, UInt16.toBitVec_or, BitVec.getLsbD_or, getLsbD_mask, Bool.true_and,
          Bool.or_assoc]
        rfl
  rw [word, fold]
  simp

end Button

/-- Which of the two triggers, sticks or motors. -/
inductive Side where
  | left | right
  deriving DecidableEq, Repr

/-- Both sides, the left one first. -/
def Side.all : List Side := [.left, .right]

/-! ## The gamepad -/

/-- A stick's position, from -32768 (left, down) to 32767 (right, up) on each axis. -/
structure Stick where
  x : Int16 := 0
  y : Int16 := 0
  deriving DecidableEq, Repr

/-- What a controller shows at one instant. -/
structure Gamepad where
  buttons : UInt16 := 0
  leftTrigger : UInt8 := 0
  rightTrigger : UInt8 := 0
  leftStick : Stick := {}
  rightStick : Stick := {}
  deriving DecidableEq, Repr

namespace Gamepad

/-- The guide button's bit, which only the extended state query reports. -/
def guideMask : UInt16 := 0x0400

/-- The gamepad with the guide button's bit cleared. -/
def withoutGuide (pad : Gamepad) : Gamepad :=
  { pad with buttons := pad.buttons &&& ~~~guideMask }

/-- Whether the button's bit is set. -/
def isDown (pad : Gamepad) (button : Button) : Bool :=
  pad.buttons.toBitVec.getLsbD button.bit

/-- The gamepad with the button's bit set or cleared. -/
def setButton (pad : Gamepad) (button : Button) (down : Bool) : Gamepad :=
  { pad with
    buttons := if down then pad.buttons ||| button.mask else pad.buttons &&& ~~~button.mask }

/-- Writing one bit leaves every other bit of the word as it was. -/
theorem getLsbD_setButton (pad : Gamepad) (button : Button) (down : Bool) (i : Nat) :
    (pad.setButton button down).buttons.toBitVec.getLsbD i
      = if i = button.bit then down else pad.buttons.toBitVec.getLsbD i := by
  have hb := button.bit_lt
  cases down
  · simp only [setButton, Bool.false_eq_true, if_false, UInt16.toBitVec_and, UInt16.toBitVec_not,
      BitVec.getLsbD_and, BitVec.getLsbD_not, Button.getLsbD_mask]
    by_cases h : i = button.bit
    · simp [h]
    · by_cases hi : i < 16
      · simp [h, hi]
      · simp [h, hi, BitVec.getLsbD_of_ge _ _ (Nat.le_of_not_lt hi)]
  · simp only [setButton, if_true, UInt16.toBitVec_or, BitVec.getLsbD_or, Button.getLsbD_mask]
    by_cases h : i = button.bit <;> simp [h]

theorem isDown_setButton (pad : Gamepad) (button other : Button) (down : Bool) :
    (pad.setButton button down).isDown other
      = if other = button then down else pad.isDown other := by
  simp only [isDown, getLsbD_setButton]
  by_cases h : other = button
  · simp [h]
  · have : other.bit ≠ button.bit := fun e => h (Button.bit_inj e)
    simp [h, this]

/-- A gamepad whose button word is built from chosen buttons shows just these. -/
theorem isDown_word {pad : Gamepad} {chosen : Button → Bool}
    (h : pad.buttons = Button.word chosen) (button : Button) :
    pad.isDown button = chosen button := by
  rw [isDown, h, Button.getLsbD_word, Bool.eq_iff_iff, List.any_eq_true]
  constructor
  · intro ⟨other, _, hother⟩
    simp only [Bool.and_eq_true, beq_iff_eq] at hother
    exact Button.bit_inj hother.2 ▸ hother.1
  · intro hchosen
    exact ⟨button, button.mem_all, by simp [hchosen]⟩

/-- The trigger of a side. -/
def trigger (pad : Gamepad) : Side → UInt8
  | .left => pad.leftTrigger
  | .right => pad.rightTrigger

/-- The gamepad with one trigger replaced. -/
def setTrigger (pad : Gamepad) (side : Side) (value : UInt8) : Gamepad :=
  match side with
  | .left => { pad with leftTrigger := value }
  | .right => { pad with rightTrigger := value }

theorem trigger_setTrigger (pad : Gamepad) (side other : Side) (value : UInt8) :
    (pad.setTrigger side value).trigger other
      = if other = side then value else pad.trigger other := by
  cases side <;> cases other <;> rfl

/-- The stick of a side. -/
def stick (pad : Gamepad) : Side → Stick
  | .left => pad.leftStick
  | .right => pad.rightStick

/-- The gamepad with one stick replaced. -/
def setStick (pad : Gamepad) (side : Side) (value : Stick) : Gamepad :=
  match side with
  | .left => { pad with leftStick := value }
  | .right => { pad with rightStick := value }

theorem stick_setStick (pad : Gamepad) (side other : Side) (value : Stick) :
    (pad.setStick side value).stick other = if other = side then value else pad.stick other := by
  cases side <;> cases other <;> rfl

@[simp] theorem setStick_stick (pad : Gamepad) (side : Side) :
    pad.setStick side (pad.stick side) = pad := by
  cases side <;> rfl

@[simp] theorem buttons_setTrigger (pad : Gamepad) (side : Side) (value : UInt8) :
    (pad.setTrigger side value).buttons = pad.buttons := by
  cases side <;> rfl

@[simp] theorem buttons_setStick (pad : Gamepad) (side : Side) (value : Stick) :
    (pad.setStick side value).buttons = pad.buttons := by
  cases side <;> rfl

@[simp] theorem trigger_setButton (pad : Gamepad) (button : Button) (down : Bool) (side : Side) :
    (pad.setButton button down).trigger side = pad.trigger side := by
  cases side <;> rfl

@[simp] theorem trigger_setStick (pad : Gamepad) (side other : Side) (value : Stick) :
    (pad.setStick side value).trigger other = pad.trigger other := by
  cases side <;> cases other <;> rfl

@[simp] theorem stick_setButton (pad : Gamepad) (button : Button) (down : Bool) (side : Side) :
    (pad.setButton button down).stick side = pad.stick side := by
  cases side <;> rfl

@[simp] theorem stick_setTrigger (pad : Gamepad) (side other : Side) (value : UInt8) :
    (pad.setTrigger side value).stick other = pad.stick other := by
  cases side <;> cases other <;> rfl

end Gamepad

/-! ## State, motors and capabilities -/

/-- A gamepad with the number of updates that led to it, counted modulo 2^32. -/
structure GamepadState where
  packetNumber : UInt32 := 0
  gamepad : Gamepad := {}
  deriving DecidableEq, Repr

/-- The next state: a newer gamepad, one update later. -/
def GamepadState.update (state : GamepadState) (pad : Gamepad) : GamepadState :=
  { packetNumber := state.packetNumber + 1, gamepad := pad }

/-- The speeds of the two rumble motors. -/
structure Vibration where
  leftMotor : UInt16 := 0
  rightMotor : UInt16 := 0
  deriving DecidableEq, Repr

/-- What a controller can do: its kind, and the greatest value of each control. -/
structure Capabilities where
  deviceType : UInt8 := 0
  subType : UInt8 := 0
  flags : UInt16 := 0
  gamepad : Gamepad := {}
  vibration : Vibration := {}
  deriving DecidableEq, Repr

namespace Capabilities

/-- The device type and subtype of a gamepad. -/
def gamepadType : UInt8 := 0x01

/-- The capability flag of a device with rumble motors. -/
def forceFeedback : UInt16 := 0x0001

/-- The flag of a capability query that asks for gamepads only. -/
def gamepadOnly : UInt32 := 1

/-- The capabilities of any controller that the input server reports. -/
def remote : Capabilities where
  deviceType := gamepadType
  subType := gamepadType
  flags := forceFeedback
  gamepad :=
    { buttons := 0xFFFF, leftTrigger := 3, rightTrigger := 3,
      leftStick := { x := 7, y := 7 }, rightStick := { x := 7, y := 7 } }
  vibration := { leftMotor := 255, rightMotor := 255 }

end Capabilities

/-- Capabilities with the identity of the device. -/
structure ExtendedCapabilities where
  capabilities : Capabilities
  vendorId : UInt16
  productId : UInt16
  deriving DecidableEq, Repr

namespace ExtendedCapabilities

/-- The vendor reported for every controller. -/
def remoteVendor : UInt16 := 0x045E

/-- The product reported for every controller. -/
def remoteProduct : UInt16 := 0x02A1

/-- A controller's capabilities under the identity that every controller is given. -/
def ofCapabilities (capabilities : Capabilities) : ExtendedCapabilities where
  capabilities := capabilities
  vendorId := remoteVendor
  productId := remoteProduct

end ExtendedCapabilities

end PadLink
