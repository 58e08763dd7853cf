import PadLink.Json.Form
import PadLink.Network

set_option autoImplicit false

/-! # Networks as JSON

A network can be written down beforehand: what will arrive and when, and what will fail. A delivery
has its bytes, or the name of a fault; everything else may be missing. -/

namespace PadLink

/-- The fault with the name. -/
def Fault.ofName? : String → Option Fault
  | "WouldBlock" => some .wouldBlock
  | "TimedOut" => some .timedOut
  | "ConnectionReset" => some .connectionReset
  | "ConnectionRefused" => some .connectionRefused
  | "Interrupted" => some .interrupted
  | _ => none

namespace Json

/-- The value of a member, if there is one. -/
def member? {α : Type} [JsonForm α] (name : String) (json : Json) : Option α :=
  (json.get? name).bind ofJson?

/-- The text of a member, if there is one. -/
def textMember? (name : String) (json : Json) : Option String := (json.get? name).bind text?

/-- The items of a member, none if it is missing. -/
def itemsMember (name : String) (json : Json) : List Json :=
  ((json.get? name).bind items?).getD []

/-- The bytes that an array of numbers stands for. -/
def bytes? (json : Json) : Option (List UInt8) := json.items?.bind fun items => items.mapM ofJson?

/-- The natural number of a member, if there is one. -/
def natMember? (name : String) (json : Json) : Option Nat :=
  (json.get? name).bind (nat? UInt64.size)

end Json

/-- The delivery that a record describes. -/
def Delivery.ofJson? (json : Json) : Option Delivery :=
  match json.get? "bytes" with
  | some bytes => bytes.bytes?.map .payload
  | none => ((json.textMember? "error").bind Fault.ofName?).map .fault

/-- The arrival that a record describes. -/
def Arrival.ofJson? (json : Json) : Option Arrival := do
  return { time := ← json.natMember? "at", delivery := ← Delivery.ofJson? json }

/-- The network that a record describes, at the beginning of time. -/
def Network.ofJson? (json : Json) : Option Network := do
  let arrivals ← (json.itemsMember "incoming").mapM Arrival.ofJson?
  let sends ← (json.itemsMember "send_errors").mapM (Json.nat? UInt64.size)
  let obstacles : Obstacles :=
    { bind := json.textMember? "bind_error", timeout := json.textMember? "timeout_error",
      spawn := json.textMember? "spawn_error", sends := sends }
  return { Network.ofArrivals arrivals with obstacles := obstacles }

end PadLink
