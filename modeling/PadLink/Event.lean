import PadLink.Address.Basic
import PadLink.Error
import PadLink.Request
import PadLink.Wire.Datagram

set_option autoImplicit false

/-! # Events

Everything that a session does or notices is an event: what it sends and receives, controllers that
come and go, keystrokes, and the decisions at its start and its end. A session keeps its events in a
journal with the time of each. `Event.line` is the log line of an event, with its level, if the
event has one. -/

namespace PadLink

/-- How important a log line is, the most important first. -/
inductive Level where
  | error | warn | info | debug | trace
  deriving DecidableEq, Repr

namespace Level

/-- The place of the level, from 0 for the most important. -/
def rank : Level → Nat
  | error => 0 | warn => 1 | info => 2 | debug => 3 | trace => 4

/-- The name of the level in a log. -/
def name : Level → String
  | error => "ERROR" | warn => "WARN" | info => "INFO" | debug => "DEBUG" | trace => "TRACE"

end Level

/-- Why a receive failed although something was there to be received. -/
inductive Fault where
  | wouldBlock | timedOut | connectionReset | connectionRefused | interrupted
  deriving DecidableEq, Repr

namespace Fault

/-- Whether the fault only says that there is nothing yet. -/
def isSilence : Fault → Bool
  | wouldBlock | timedOut => true
  | connectionReset | connectionRefused | interrupted => false

/-- The fault in words. -/
def text : Fault → String
  | wouldBlock => "operation would block"
  | timedOut => "timed out"
  | connectionReset => "connection reset"
  | connectionRefused => "connection refused"
  | interrupted => "operation interrupted"

end Fault

/-- What happened in a session. -/
inductive Event where
  /-- A caller made a request. -/
  | requested (request : Request)
  /-- The settings could not be used, and the defaults take their place. -/
  | settingsIgnored (error : Error)
  /-- A session is about to be started. -/
  | starting (peer : SocketAddress)
  /-- A local address was bound. -/
  | bound (address : SocketAddress)
  /-- A local address could not be bound. -/
  | bindFailed (address : SocketAddress) (detail : String)
  /-- Receives have no timeout, because it could not be set. -/
  | timeoutRefused (detail : String)
  /-- A datagram went out. -/
  | sent (receiver : SocketAddress) (datagram : Datagram)
  /-- The probe did not go out. -/
  | probeFailed (receiver : SocketAddress) (detail : String)
  /-- A poll did not go out. -/
  | pollFailed (receiver : SocketAddress) (datagram : Datagram) (detail : String)
  /-- The exchange with the server begins. -/
  | exchangeStarted (peer : SocketAddress)
  /-- The server answered the probe while the start waited for it. -/
  | acknowledged (peer : SocketAddress)
  /-- The server did not answer the probe in time. -/
  | unacknowledged (peer : SocketAddress) (waitMs : Nat)
  /-- There is no session. -/
  | unavailable (error : Error)
  /-- A payload came in. -/
  | received (payload : List UInt8) (sender : SocketAddress)
  /-- A receive failed, by a fault or because nothing came in time. -/
  | receiveFailed (fault : Option Fault)
  /-- A datagram with this header was passed over. -/
  | ignored (header : UInt8)
  /-- A controller came to a slot. -/
  | connected (slot : SlotIndex)
  /-- A controller left a slot. -/
  | disconnected (slot : SlotIndex)
  /-- The server was silent for too long, and so many controllers were disconnected. -/
  | outage (peer : SocketAddress) (attempts count : Nat)
  /-- The motors of a slot were set. -/
  | vibrationSet (slot : SlotIndex) (vibration : Vibration)
  /-- A keystroke was reported. -/
  | keystroke (report : Keystroke)
  /-- The session is being closed. -/
  | closing
  /-- The exchange with the server has ended. -/
  | exchangeEnded
  deriving DecidableEq, Repr

namespace Event

open Digits (decimal)

/-- The name of an action in a log line. -/
def actionText : KeyAction → String
  | .down => "Down"
  | .up => "Up"

/-- A keystroke in a log line. -/
def keystrokeText (report : Keystroke) : String :=
  "Keystroke \x7b virtual_key: " ++ decimal report.virtualKey.toNat
    ++ ", action: " ++ actionText report.action
    ++ ", user_index: " ++ decimal report.userIndex.toNat
    ++ ", unicode: " ++ decimal report.unicode.toNat
    ++ ", hid_code: " ++ decimal report.hidCode.toNat ++ " \x7d"

/-- The log line of an event. -/
def line : Event → Option (Level × String)
  | requested request => request.trace.map fun text => (.trace, text)
  | settingsIgnored error => some (.warn, "Ignoring netpad configuration: " ++ error.message)
  | starting peer => some (.info, "Starting netpad session with " ++ peer.render)
  | bound _ => none
  | bindFailed _ _ => none
  | timeoutRefused detail => some (.warn, "Failed to set receive timeout: " ++ detail)
  | sent _ _ => none
  | probeFailed receiver detail =>
    some (.warn, "Failed to send connection probe to " ++ receiver.render ++ ": " ++ detail)
  | pollFailed receiver _ detail =>
    some (.debug, "Poll send to " ++ receiver.render ++ " failed: " ++ detail)
  | exchangeStarted peer => some (.info, "Transport worker started (peer " ++ peer.render ++ ")")
  | acknowledged peer =>
    some (.info, "Input server " ++ peer.render ++ " acknowledged connection")
  | unacknowledged peer waitMs =>
    some (.warn, "No handshake from input server " ++ peer.render ++ " within "
      ++ Duration.text waitMs ++ ", continuing")
  | unavailable error => some (.error, "Input transport unavailable: " ++ error.message)
  | received payload sender =>
    some (.trace, "Received " ++ decimal payload.length ++ " bytes from " ++ sender.render)
  | receiveFailed fault =>
    match fault.filter (fun fault => !fault.isSilence) with
    | some fault => some (.debug, "Receive failed: " ++ fault.text)
    | none => none
  | ignored header =>
    some (.debug, "Ignoring datagram with unknown header " ++ decimal header.toNat)
  | connected slot => some (.info, "Controller " ++ decimal slot.val ++ " connected")
  | disconnected slot => some (.info, "Controller " ++ decimal slot.val ++ " disconnected")
  | outage peer attempts count =>
    some (.warn, "No reply from input server " ++ peer.render ++ " after " ++ decimal attempts
      ++ " attempts, disconnected " ++ decimal count ++ " controller(s)")
  | vibrationSet _ _ => none
  | keystroke report => some (.debug, "Keystroke " ++ keystrokeText report)
  | closing => some (.debug, "Waiting for transport worker to stop...")
  | exchangeEnded => some (.info, "Transport worker stopped")

end Event

end PadLink
