import PadLink.Keystroke.Key

set_option autoImplicit false

/-! # Keystrokes

A keystroke is one report of a key that went down or came up on one of the slots. Its text and HID
fields are always zero, because the input server carries neither. A `Selector` says which slots a
caller asks about when it asks for the next keystroke. -/

namespace PadLink

/-- What happened to a key. -/
inductive KeyAction where
  | down | up
  deriving DecidableEq, Repr

/-- The flag bits that stand for the action in a report. -/
def KeyAction.flags : KeyAction → UInt16
  | .down => 0x0001
  | .up => 0x0002

/-- The action that leads to a key being held, or not held. -/
def KeyAction.towards (held : Bool) : KeyAction :=
  if held then .down else .up

/-- A key that went down or came up. -/
structure Transition where
  key : Key
  action : KeyAction
  deriving DecidableEq, Repr

/-- The report of one transition. -/
structure Keystroke where
  virtualKey : UInt16
  action : KeyAction
  userIndex : UInt8
  unicode : UInt16 := 0
  hidCode : UInt8 := 0
  deriving DecidableEq, Repr

/-- A transition, reported for the slot with the given index. -/
def Transition.report (transition : Transition) (userIndex : UInt8) : Keystroke where
  virtualKey := transition.key.code
  action := transition.action
  userIndex := userIndex

/-- Which slots a keystroke query looks at. -/
inductive Selector where
  | any
  | index (index : UInt32)
  deriving DecidableEq, Repr

namespace Selector

/-- The user index that stands for every slot. -/
def anyIndex : UInt32 := 0xFF

/-- The selector meant by a user index: the wildcard, or one slot. -/
def ofUserIndex (index : UInt32) : Selector :=
  if index = anyIndex then .any else .index index

end Selector

end PadLink
