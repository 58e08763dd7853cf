import PadLink.Keystroke.Detector
import PadLink.Wire.Block

set_option autoImplicit false

/-! # Slots

A slot is one place for a controller. Blocks from the server connect it, update it and disconnect
it; callers set its motors and its enabled flag and ask for its keystrokes.

What survives what: connecting starts the state afresh but keeps the snapshot of reported keys and
the motors; disconnecting takes the capabilities and the enabled flag but keeps the last state. So
the keys a controller held when it went away are still reported as they stand. -/

namespace PadLink

/-- One place for a controller. -/
structure Slot where
  connected : Bool := false
  enabled : Bool := false
  capabilities : Capabilities := {}
  state : GamepadState := {}
  /-- The gamepad as far as its keys have been reported. -/
  reported : Gamepad := {}
  vibration : Vibration := {}
  deriving DecidableEq, Repr

/-- What a block did to a slot. -/
inductive SlotChange where
  | connected | updated | disconnected | idle
  deriving DecidableEq, Repr

namespace Slot

/-! ## Blocks -/

/-- The slot with a new controller on it: enabled, with the capabilities that every controller has,
    and with a fresh state. -/
def connect (slot : Slot) : Slot :=
  { slot with connected := true, enabled := true, capabilities := .remote, state := {} }

/-- The slot after its controller went away. -/
def disconnect (slot : Slot) : Slot :=
  { slot with connected := false, enabled := false, capabilities := {} }

/-- The slot after an outage: disconnected if it was connected, and else as it was. -/
def vacate (slot : Slot) : Slot := if slot.connected then slot.disconnect else slot

theorem connected_vacate (slot : Slot) : slot.vacate.connected = false := by
  unfold vacate
  split
  · rfl
  · next h => exact Bool.eq_false_iff.2 h

/-- Take the block's gamepad over into the state. -/
def update (slot : Slot) (block : Block) : Slot :=
  { slot with state := slot.state.update block.gamepad }

/-- What the block means for the slot, and the slot after it. A flagged block counts as one update,
    also when it connects the slot. -/
def apply (slot : Slot) (block : Block) : SlotChange × Slot :=
  if block.isFlagged then
    if slot.connected then (.updated, slot.update block)
    else (.connected, slot.connect.update block)
  else if slot.connected then (.disconnected, slot.disconnect)
  else (.idle, slot)

/-- After a block the slot is connected exactly when the block was flagged. -/
theorem connected_apply (slot : Slot) (block : Block) :
    (slot.apply block).2.connected = block.isFlagged := by
  unfold apply
  cases hf : block.isFlagged <;> cases hc : slot.connected <;>
    simp [hc, update, connect, disconnect]

theorem vacate_of_not_connected {slot : Slot} (h : slot.connected = false) : slot.vacate = slot := by
  simp [vacate, h]

/-- A slot is vacated once and for all. -/
@[simp] theorem vacate_vacate (slot : Slot) : slot.vacate.vacate = slot.vacate :=
  vacate_of_not_connected slot.connected_vacate

/-- No outage touches the state, the reported keys or the motors. -/
theorem vacate_keeps (slot : Slot) :
    slot.vacate.state = slot.state ∧ slot.vacate.reported = slot.reported
      ∧ slot.vacate.vibration = slot.vibration := by
  unfold vacate
  split <;> exact ⟨rfl, rfl, rfl⟩

/-- A block without the flag does what an outage does. -/
theorem apply_of_not_flagged (slot : Slot) {block : Block} (h : block.isFlagged = false) :
    (slot.apply block).2 = slot.vacate := by
  unfold apply vacate
  cases hc : slot.connected <;> simp [h]

/-- No block touches the reported keys or the motors. -/
theorem apply_keeps (slot : Slot) (block : Block) :
    (slot.apply block).2.reported = slot.reported
      ∧ (slot.apply block).2.vibration = slot.vibration := by
  unfold apply
  cases block.isFlagged <;> cases slot.connected <;> exact ⟨rfl, rfl⟩

/-! ## Keys -/

/-- The slot's next keystroke, reported under the given index, and the slot that remembers it. -/
def nextKeystroke (slot : Slot) (index : SlotIndex) : Option Keystroke × Slot :=
  let outcome := slot.state.gamepad.detect slot.reported
  (outcome.1.map fun transition => transition.report (UInt8.ofNat index.val),
    { slot with reported := outcome.2 })

end Slot

end PadLink
