import PadLink.Gamepad

set_option autoImplicit false

/-! # Keys of a gamepad

Everything on a gamepad that can be pressed is a key: each of the fourteen buttons, each trigger
once it is pulled far enough, and each stick once it is pushed far enough in one of eight
directions. `Gamepad.holds` says which keys a gamepad holds down. A stick holds at most one of its
eight direction keys, because `Stick.direction` is a function; `Key.code` gives every key a number
of its own (`Key.code_inj`). -/

namespace PadLink

/-! ## Stick directions -/

/-- The eight directions of a stick, in the order of their key codes. -/
inductive Direction where
  | up | down | right | left | upLeft | upRight | downRight | downLeft
  deriving DecidableEq, Repr

namespace Direction

/-- Every direction, in the order of the key codes. -/
def all : List Direction := [up, down, right, left, upLeft, upRight, downRight, downLeft]

/-- The direction's place among the key codes of its stick. -/
def offset : Direction → UInt16
  | up => 0 | down => 1 | right => 2 | left => 3
  | upLeft => 4 | upRight => 5 | downRight => 6 | downLeft => 7

end Direction

/-- Where a stick's axis stands: near the middle, or well towards one of its ends. -/
inductive Zone where
  | low | off | high
  deriving DecidableEq, Repr

namespace Stick

/-- An axis leaves the middle zone when it is farther from zero than this. -/
def threshold : Int16 := 20000

/-- The zone of an axis value. -/
def zone (value : Int16) : Zone :=
  if threshold < value then .high
  else if value < -threshold then .low
  else .off

/-- The direction in which the stick is pushed, if it is pushed out of the middle at all. -/
def direction (stick : Stick) : Option Direction :=
  match zone stick.x, zone stick.y with
  | .off, .off => none
  | .off, .high => some .up
  | .off, .low => some .down
  | .high, .off => some .right
  | .low, .off => some .left
  | .low, .high => some .upLeft
  | .high, .high => some .upRight
  | .high, .low => some .downRight
  | .low, .low => some .downLeft

/-- A centred stick is pushed nowhere. -/
theorem direction_center : ({} : Stick).direction = none := by decide

end Stick

/-! ## Keys -/

/-- A key of a gamepad. -/
inductive Key where
  | button (button : Button)
  | trigger (side : Side)
  | stick (side : Side) (direction : Direction)
  deriving DecidableEq, Repr

namespace Key

/-- Every key, in the order in which changes are reported. -/
def all : List Key :=
  Button.all.map button ++ Side.all.map trigger
    ++ Side.all.flatMap fun side => Direction.all.map (stick side)

theorem mem_all (key : Key) : key ∈ all := by
  match key with
  | .button btn => cases btn <;> decide
  | .trigger s => cases s <;> decide
  | .stick s d => cases s <;> cases d <;> decide

/-- The number by which a button is reported. -/
def buttonCode : Button → UInt16
  | .a => 0x5800 | .b => 0x5801 | .x => 0x5802 | .y => 0x5803
  | .rightShoulder => 0x5804 | .leftShoulder => 0x5805
  | .dpadUp => 0x5810 | .dpadDown => 0x5811 | .dpadLeft => 0x5812 | .dpadRight => 0x5813
  | .start => 0x5814 | .back => 0x5815
  | .leftThumb => 0x5816 | .rightThumb => 0x5817

/-- The number by which a key is reported. -/
def code : Key → UInt16
  | button btn => buttonCode btn
  | trigger .left => 0x5806
  | trigger .right => 0x5807
  | stick .left d => 0x5820 + d.offset
  | stick .right d => 0x5830 + d.offset

/-- No two keys share a number. -/
theorem code_inj {key other : Key} (h : key.code = other.code) : key = other :=
  have distinct : ∀ k ∈ all, ∀ o ∈ all, k.code = o.code → k = o := by decide
  distinct key (mem_all key) other (mem_all other) h

end Key

namespace Gamepad

/-- A trigger counts as pressed when it is pulled farther than this. -/
def triggerThreshold : UInt8 := 30

/-- Whether a trigger is pulled far enough to count as pressed. -/
def pulls (pad : Gamepad) (side : Side) : Bool := triggerThreshold < pad.trigger side

/-- Whether the gamepad holds the key down. -/
def holds (pad : Gamepad) : Key → Bool
  | .button btn => pad.isDown btn
  | .trigger side => pad.pulls side
  | .stick side d => (pad.stick side).direction == some d

/-- The keys that the gamepad holds down. -/
def heldKeys (pad : Gamepad) : List Key := Key.all.filter pad.holds

theorem mem_heldKeys {pad : Gamepad} {key : Key} : key ∈ pad.heldKeys ↔ pad.holds key = true := by
  simp [heldKeys, Key.mem_all]

/-- A stick holds at most one of its direction keys. -/
theorem direction_unique {pad : Gamepad} {side : Side} {d e : Direction}
    (hd : pad.holds (.stick side d) = true) (he : pad.holds (.stick side e) = true) : d = e := by
  simp only [holds, beq_iff_eq] at hd he
  exact Option.some.inj (hd.symm.trans he)

/-- A gamepad at rest holds no key. -/
theorem holds_default (key : Key) : ({} : Gamepad).holds key = false := by
  match key with
  | .button btn => cases btn <;> decide
  | .trigger s => cases s <;> decide
  | .stick s d => cases s <;> cases d <;> decide

end Gamepad

end PadLink
