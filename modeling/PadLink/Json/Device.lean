import PadLink.Bank
import PadLink.Json.Form

set_option autoImplicit false

/-! # Gamepads and reports as JSON

Every value is a record with fixed names, written with all of them. A key action is its name, or an
object with the name as its only key and `null` behind it. -/

namespace PadLink

open Json (record)

instance : JsonForm Gamepad where
  toJson pad := record
    [("buttons", toJson pad.buttons),
     ("left_trigger", toJson pad.leftTrigger), ("right_trigger", toJson pad.rightTrigger),
     ("thumb_lx", toJson pad.leftStick.x), ("thumb_ly", toJson pad.leftStick.y),
     ("thumb_rx", toJson pad.rightStick.x), ("thumb_ry", toJson pad.rightStick.y)]
  ofJson? json := do
    match ← json.fields? ["buttons", "left_trigger", "right_trigger",
      "thumb_lx", "thumb_ly", "thumb_rx", "thumb_ry"] with
    | [some buttons, some leftTrigger, some rightTrigger, some lx, some ly, some rx, some ry] =>
      return {
        buttons := ← ofJson? buttons
        leftTrigger := ← ofJson? leftTrigger
        rightTrigger := ← ofJson? rightTrigger
        leftStick := { x := ← ofJson? lx, y := ← ofJson? ly }
        rightStick := { x := ← ofJson? rx, y := ← ofJson? ry } }
    | _ => none

instance : JsonForm GamepadState where
  toJson state := record
    [("packet_number", toJson state.packetNumber), ("gamepad", toJson state.gamepad)]
  ofJson? json := do
    match ← json.fields? ["packet_number", "gamepad"] with
    | [some packetNumber, some gamepad] =>
      return { packetNumber := ← ofJson? packetNumber, gamepad := ← ofJson? gamepad }
    | _ => none

instance : JsonForm Vibration where
  toJson vibration := record
    [("left_motor", toJson vibration.leftMotor), ("right_motor", toJson vibration.rightMotor)]
  ofJson? json := do
    match ← json.fields? ["left_motor", "right_motor"] with
    | [some leftMotor, some rightMotor] =>
      return { leftMotor := ← ofJson? leftMotor, rightMotor := ← ofJson? rightMotor }
    | _ => none

instance : JsonForm Capabilities where
  toJson capabilities := record
    [("device_type", toJson capabilities.deviceType), ("sub_type", toJson capabilities.subType),
     ("flags", toJson capabilities.flags), ("gamepad", toJson capabilities.gamepad),
     ("vibration", toJson capabilities.vibration)]
  ofJson? json := do
    match ← json.fields? ["device_type", "sub_type", "flags", "gamepad", "vibration"] with
    | [some deviceType, some subType, some flags, some gamepad, some vibration] =>
      return {
        deviceType := ← ofJson? deviceType
        subType := ← ofJson? subType
        flags := ← ofJson? flags
        gamepad := ← ofJson? gamepad
        vibration := ← ofJson? vibration }
    | _ => none

instance : JsonForm ExtendedCapabilities where
  toJson extended := record
    [("capabilities", toJson extended.capabilities), ("vendor_id", toJson extended.vendorId),
     ("product_id", toJson extended.productId)]
  ofJson? json := do
    match ← json.fields? ["capabilities", "vendor_id", "product_id"] with
    | [some capabilities, some vendorId, some productId] =>
      return {
        capabilities := ← ofJson? capabilities
        vendorId := ← ofJson? vendorId
        productId := ← ofJson? productId }
    | _ => none

namespace KeyAction

/-- The name of an action. -/
def name : KeyAction → String
  | .down => "Down"
  | .up => "Up"

/-- The action with the name. -/
def ofName? (name : String) : Option KeyAction :=
  if name = "Down" then some .down
  else if name = "Up" then some .up
  else none

end KeyAction

instance : JsonForm KeyAction where
  toJson action := .text action.name
  ofJson?
    | .string (some name) => KeyAction.ofName? name
    | .object [(some name, .null)] => KeyAction.ofName? name
    | _ => none

instance : JsonForm Keystroke where
  toJson keystroke := record
    [("virtual_key", toJson keystroke.virtualKey), ("action", toJson keystroke.action),
     ("user_index", toJson keystroke.userIndex), ("unicode", toJson keystroke.unicode),
     ("hid_code", toJson keystroke.hidCode)]
  ofJson? json := do
    match ← json.fields? ["virtual_key", "action", "user_index", "unicode", "hid_code"] with
    | [some virtualKey, some action, some userIndex, some unicode, some hidCode] =>
      return {
        virtualKey := ← ofJson? virtualKey
        action := ← ofJson? action
        userIndex := ← ofJson? userIndex
        unicode := ← ofJson? unicode
        hidCode := ← ofJson? hidCode }
    | _ => none

/-- A report on a slot as JSON; it is only ever written. -/
def SlotStatus.toJson (status : SlotStatus) : Json := record
  [("index", .nat status.index.val), ("connected", .bool status.connected),
   ("enabled", .bool status.enabled), ("vibration", JsonForm.toJson status.vibration)]

end PadLink
