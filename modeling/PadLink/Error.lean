import PadLink.Gamepad
import PadLink.Text.Digits
import PadLink.Text.Duration

set_option autoImplicit false

/-! # Errors

What can go wrong for a caller. Every cause has a message and a status number; several causes share
a status. -/

namespace PadLink

/-- Why a caller did not get what was asked for. -/
inductive Error where
  /-- The index names none of the four slots. -/
  | invalidSlot (index : UInt32)
  /-- There is no controller on the slot. -/
  | notConnected (index : UInt32)
  /-- The input server has nothing of the kind. -/
  | unsupported (feature : String)
  /-- There is no session with the input server. -/
  | unavailable (reason : String)
  /-- The input server said nothing within the time that the caller was ready to wait. -/
  | notReady (limitMs : Nat)
  /-- A setting has no meaning. -/
  | config (detail : String)
  /-- A file could not be read. -/
  | io (detail : String)
  /-- A file is no JSON of the expected form. -/
  | json
  deriving DecidableEq, Repr

namespace Error

/-- The message for the user. -/
def message : Error → String
  | invalidSlot index => "Invalid controller slot: " ++ Digits.decimal index.toNat
  | notConnected index => "Controller " ++ Digits.decimal index.toNat ++ " is not connected"
  | unsupported feature => "Not supported by the input server: " ++ feature
  | unavailable reason => "Transport unavailable: " ++ reason
  | notReady limit => "Input server not ready after " ++ Duration.text limit
  | config detail => "Config error: " ++ detail
  | io detail => "IO error: " ++ detail
  | json => "JSON error"

/-- The status number for callers that know no messages. -/
def status : Error → Nat
  | unsupported _ => 50
  | invalidSlot _ => 160
  | unavailable _ | notReady _ => 1062
  | notConnected _ => 1167
  | config _ | io _ | json => 1610

/-- The status number of success. -/
def successStatus : Nat := 0

/-- The status number of a keystroke query that finds nothing. -/
def emptyStatus : Nat := 4306

end Error

/-- The slot that a caller's index names. -/
def SlotIndex.check (index : UInt32) : Except Error SlotIndex :=
  if h : index.toNat < 4 then .ok ⟨index.toNat, h⟩ else .error (.invalidSlot index)

theorem SlotIndex.check_eq_ok {index : UInt32} {slot : SlotIndex} :
    SlotIndex.check index = .ok slot ↔ index.toNat = slot.val := by
  unfold check
  split
  · simp [Fin.ext_iff]
  · next h =>
    simp only [reduceCtorEq, false_iff]
    have := slot.isLt
    omega

theorem SlotIndex.check_eq_error {index : UInt32} {error : Error} :
    SlotIndex.check index = .error error ↔ 4 ≤ index.toNat ∧ error = .invalidSlot index := by
  unfold check
  split
  · next h =>
    simp only [reduceCtorEq, false_iff]
    omega
  · next h => simp [Nat.le_of_not_lt h, eq_comm]

end PadLink
