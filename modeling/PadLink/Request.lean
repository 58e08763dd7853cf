import PadLink.Keystroke.Basic
import PadLink.Text.Digits

set_option autoImplicit false

/-! # Requests

What callers can ask of a session, as values, and the line by which a request is traced. -/

namespace PadLink

/-- Something that a caller asks for. An index is the caller's own number, valid or not. -/
inductive Request where
  | enable (on : Bool)
  | setVibration (index : UInt32) (vibration : Vibration)
  | state (index : UInt32)
  | extendedState (index : UInt32)
  | keystroke (selector : Selector)
  | capabilities (index flags : UInt32)
  | extendedCapabilities (index flags : UInt32)
  | battery (index : UInt32) (kind : UInt8)
  | audioDevices (index : UInt32)
  | status (index : UInt32)
  | peer
  deriving DecidableEq, Repr

namespace Request

open Digits (decimal)

/-- The motor speeds in a traced line. -/
def vibrationText (vibration : Vibration) : String :=
  "Vibration \x7b left_motor: " ++ decimal vibration.leftMotor.toNat ++ ", right_motor: "
    ++ decimal vibration.rightMotor.toNat ++ " \x7d"

/-- A selector in a traced line. -/
def selectorText : Selector → String
  | .any => "Any"
  | .index n => "Index(" ++ decimal n.toNat ++ ")"

/-- The flags of a capability query in a traced line. -/
def flagsText (flags : UInt32) : String := "0x" ++ String.ofList (Nat.toDigits 16 flags.toNat)

/-- The line that a request leaves in a trace; asking for the server's address leaves none. -/
def trace : Request → Option String
  | enable on => some ("enable " ++ if on then "true" else "false")
  | setVibration index vibration =>
    some ("index " ++ decimal index.toNat ++ ", vibration " ++ vibrationText vibration)
  | state index => some ("get_state " ++ decimal index.toNat)
  | extendedState index => some ("get_state_ex " ++ decimal index.toNat)
  | keystroke selector => some ("get_keystroke " ++ selectorText selector)
  | capabilities index flags =>
    some ("get_capabilities " ++ decimal index.toNat ++ ", flags " ++ flagsText flags)
  | extendedCapabilities index flags =>
    some ("get_capabilities_ex " ++ decimal index.toNat ++ ", flags " ++ flagsText flags)
  | battery index kind =>
    some ("get_battery_information " ++ decimal index.toNat ++ ", kind " ++ decimal kind.toNat)
  | audioDevices index => some ("get_dsound_audio_device_guids " ++ decimal index.toNat)
  | status index => some ("slot_status " ++ decimal index.toNat)
  | peer => none

end Request

end PadLink
