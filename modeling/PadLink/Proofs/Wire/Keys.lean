import PadLink.Keystroke.Key
import PadLink.Wire.Block

set_option autoImplicit false

/-! # Keys on the wire

`Block.presses` reads a key off the bytes of a block, without any gamepad in between: a button by the
place of its bit or by the octants that hold it, a trigger by its byte, a direction by the thirds in
which the two axis bytes of its stick stand. The gamepad that is decoded from the block holds the same
keys (`holds_gamepad`); there the bytes went through the button word and through signed axes. -/

namespace PadLink.Block

/-- The byte and the bit of a button outside the directional pad. -/
def bitPlace? : Button → Option (Fin 11 × Nat)
  | .a => some (2, 0)
  | .b => some (2, 1)
  | .x => some (2, 2)
  | .y => some (2, 3)
  | .rightShoulder => some (2, 4)
  | .leftShoulder => some (2, 5)
  | .leftThumb => some (2, 6)
  | .rightThumb => some (2, 7)
  | .start => some (3, 0)
  | .back => some (3, 1)
  | .dpadUp | .dpadDown | .dpadLeft | .dpadRight => none

/-- The octants, clockwise from up, in which a button of the directional pad is pressed. -/
def octants : Button → List UInt8
  | .dpadUp => [8, 1, 2]
  | .dpadRight => [2, 3, 4]
  | .dpadDown => [4, 5, 6]
  | .dpadLeft => [6, 7, 8]
  | _ => []

/-- Where an axis byte stands. -/
def axisZone (raw : UInt8) : Zone :=
  if 206 ≤ raw then .high else if raw ≤ 49 then .low else .off

/-- The zones of the two axes in a direction, the horizontal one first. -/
def zones : Direction → Zone × Zone
  | .up => (.off, .high)
  | .down => (.off, .low)
  | .right => (.high, .off)
  | .left => (.low, .off)
  | .upLeft => (.low, .high)
  | .upRight => (.high, .high)
  | .downRight => (.high, .low)
  | .downLeft => (.low, .low)

/-- Whether the bytes of the block show the key pressed. -/
def presses (block : Block) : Key → Bool
  | .button btn =>
    match bitPlace? btn with
    | some (byte, bit) => (block.get byte).toNat.testBit bit
    | none => (octants btn).contains (block.get 4)
  | .trigger .left => decide ((30 : UInt8) < block.get 9)
  | .trigger .right => decide ((30 : UInt8) < block.get 10)
  | .stick .left d => (axisZone (block.get 5), axisZone (block.get 6)) == zones d
  | .stick .right d => (axisZone (block.get 7), axisZone (block.get 8)) == zones d

/-! ## The decoded gamepad -/

theorem mem_octantButtons (btn : Button) (octant : UInt8) :
    decide (btn ∈ octantButtons octant) = (octants btn).contains octant := by
  unfold octantButtons
  split
  -- the last branch of the table is for the bytes that are no octant
  case h_9 =>
    have hout : octant ∉ octants btn := by
      cases btn <;> grind [octants]
    simp [hout]
  all_goals cases btn <;> rfl

theorem shows_eq_presses (block : Block) (btn : Button) :
    block.shows btn = block.presses (.button btn) := by
  cases btn <;> first | rfl | exact mem_octantButtons _ _

theorem zone_scaleAxis (raw : UInt8) : Stick.zone (scaleAxis raw) = axisZone raw := by
  have hhigh : Stick.threshold < scaleAxis raw ↔ 206 ≤ raw := by
    rw [Int16.lt_iff_toInt_lt, toInt_scaleAxis, UInt8.le_iff_toNat_le]
    show (20000 : Int) < _ ↔ 206 ≤ raw.toNat
    omega
  have hlow : scaleAxis raw < -Stick.threshold ↔ raw ≤ 49 := by
    rw [Int16.lt_iff_toInt_lt, toInt_scaleAxis, UInt8.le_iff_toNat_le]
    show _ < (-20000 : Int) ↔ raw.toNat ≤ 49
    omega
  simp only [Stick.zone, axisZone, hhigh, hlow]

/-- A stick is pushed in the direction whose zones its axes stand in. -/
theorem direction_eq_some (stick : Stick) (d : Direction) :
    (stick.direction == some d) = ((Stick.zone stick.x, Stick.zone stick.y) == zones d) := by
  unfold Stick.direction
  cases Stick.zone stick.x <;> cases Stick.zone stick.y <;> cases d <;> rfl

/-- The decoded gamepad holds the keys that the bytes show. -/
theorem holds_gamepad (block : Block) (key : Key) : block.gamepad.holds key = block.presses key := by
  cases key with
  | button btn => rw [Gamepad.holds, isDown_gamepad, shows_eq_presses]
  | trigger side => cases side <;> rfl
  | stick side d =>
    rw [Gamepad.holds, direction_eq_some]
    cases side with
    | left =>
      show ((Stick.zone (scaleAxis block[5]), Stick.zone (scaleAxis block[6])) == zones d) = _
      rw [zone_scaleAxis, zone_scaleAxis]
      rfl
    | right =>
      show ((Stick.zone (scaleAxis block[7]), Stick.zone (scaleAxis block[8])) == zones d) = _
      rw [zone_scaleAxis, zone_scaleAxis]
      rfl

/-! ## What no block shows -/

/-- A word of buttons has no bit that belongs to none of them. -/
theorem word_and_eq_zero {chosen : Button → Bool} {mask : UInt16}
    (h : ∀ button : Button, mask.toBitVec.getLsbD button.bit = false) :
    Button.word chosen &&& mask = 0 := by
  refine UInt16.toBitVec_inj.1 (BitVec.eq_of_getLsbD_eq fun i _ => ?_)
  rw [UInt16.toBitVec_and, BitVec.getLsbD_and, Button.getLsbD_word]
  simp only [UInt16.toBitVec_zero, BitVec.getLsbD_zero, Bool.and_eq_false_iff]
  by_cases hi : ∃ button : Button, i = button.bit
  · obtain ⟨button, rfl⟩ := hi
    exact Or.inr (h button)
  · refine Or.inl (List.any_eq_false.2 fun button _ => ?_)
    simp only [Bool.and_eq_true, beq_iff_eq, not_and]
    exact fun _ heq => hi ⟨button, heq⟩

/-- No octant presses two opposite buttons. -/
theorem not_opposite_octant (octant : UInt8) :
    ¬(Button.dpadUp ∈ octantButtons octant ∧ Button.dpadDown ∈ octantButtons octant)
      ∧ ¬(Button.dpadLeft ∈ octantButtons octant ∧ Button.dpadRight ∈ octantButtons octant) := by
  unfold octantButtons
  split <;> decide

end PadLink.Block

namespace PadLink

/-- Neither the guide button's bit nor the unused bit beside it is set, and no two opposite buttons of
    the directional pad are down. -/
structure Gamepad.Possible (pad : Gamepad) : Prop where
  guide : pad.buttons &&& Gamepad.guideMask = 0
  unused : pad.buttons &&& 0x0800 = 0
  vertical : ¬(pad.isDown .dpadUp = true ∧ pad.isDown .dpadDown = true)
  horizontal : ¬(pad.isDown .dpadLeft = true ∧ pad.isDown .dpadRight = true)

theorem Gamepad.possible_default : ({} : Gamepad).Possible := by
  refine ⟨?_, ?_, ?_, ?_⟩ <;> decide

theorem Block.possible_gamepad (block : Block) : block.gamepad.Possible := by
  obtain ⟨hvertical, hhorizontal⟩ := not_opposite_octant block[4]
  refine ⟨word_and_eq_zero fun button => ?_, word_and_eq_zero fun button => ?_, ?_, ?_⟩
  · cases button <;> rfl
  · cases button <;> rfl
  · simpa [isDown_gamepad, shows] using hvertical
  · simpa [isDown_gamepad, shows] using hhorizontal

/-- For a possible gamepad it makes no difference whether the guide button's bit is cleared. -/
theorem Gamepad.Possible.withoutGuide {pad : Gamepad} (h : pad.Possible) :
    pad.withoutGuide = pad := by
  have hkept : pad.buttons &&& ~~~Gamepad.guideMask = pad.buttons := by
    refine UInt16.toBitVec_inj.1 (BitVec.eq_of_getLsbD_eq fun i hi => ?_)
    have hclear := congrArg (fun word : UInt16 => word.toBitVec.getLsbD i) h.guide
    simp only [UInt16.toBitVec_and, UInt16.toBitVec_not, BitVec.getLsbD_and, BitVec.getLsbD_not,
      UInt16.toBitVec_zero, BitVec.getLsbD_zero] at hclear ⊢
    grind
  rw [Gamepad.withoutGuide, hkept]

end PadLink
