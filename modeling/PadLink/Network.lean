import PadLink.Event

set_option autoImplicit false

/-! # The network around a session

Outside a session there is a clock, there are deliveries under way to it, and there are things that
will fail when they are tried. The network holds all this, together with the journal of what has
happened.

Time is a number of milliseconds and passes only where a caller lets it pass. Deliveries are kept in
the order of their times, and of two with the same time the earlier insertion stands in front, so
the head of the inbox is always the next to be received. -/

namespace PadLink

/-- What a receive can find: a payload, or a fault. -/
inductive Delivery where
  | payload (bytes : List UInt8)
  | fault (fault : Fault)
  deriving DecidableEq, Repr

/-- A delivery and the time from which it can be received. -/
structure Arrival where
  time : Nat
  delivery : Delivery
  deriving DecidableEq, Repr

/-- Insert an arrival behind everything that is due no later. -/
def Arrival.insert (arrival : Arrival) : List Arrival → List Arrival
  | [] => [arrival]
  | head :: rest =>
    if head.time ≤ arrival.time then head :: arrival.insert rest else arrival :: head :: rest

/-- What will fail when it is tried, each with its reason. -/
structure Obstacles where
  bind : Option String := none
  timeout : Option String := none
  spawn : Option String := none
  /-- The ordinals of the sends that fail, counted from the probe. -/
  sends : List Nat := []
  deriving Repr

/-- The reason for which a send fails. -/
def Obstacles.sendFault : String := "scripted send error"

/-- An event and when it happened. -/
structure Entry where
  time : Nat
  event : Event
  deriving DecidableEq, Repr

/-- The clock, the deliveries under way, what will fail, and what has happened. -/
structure Network where
  now : Nat := 0
  /-- The deliveries that have not been received, in order. -/
  inbox : List Arrival := []
  obstacles : Obstacles := {}
  /-- How many sends have been tried. -/
  sends : Nat := 0
  /-- The time at which the calling program ends, if it is to end. -/
  stopAt : Option Nat := none
  /-- What has happened, the latest first. -/
  journal : List Entry := []
  deriving Repr

namespace Network

/-- The network with the given deliveries under way. -/
def ofArrivals (arrivals : List Arrival) : Network :=
  { inbox := arrivals.foldl (fun inbox arrival => arrival.insert inbox) [] }

/-- Write an event into the journal. -/
def note (network : Network) (event : Event) : Network :=
  { network with journal := ⟨network.now, event⟩ :: network.journal }

/-- Put a delivery into the inbox, due from now on. -/
def deliver (network : Network) (delivery : Delivery) : Network :=
  { network with inbox := Arrival.insert ⟨network.now, delivery⟩ network.inbox }

/-- Try to send a datagram, noting the event of its failure if it fails. -/
def transmit (network : Network) (receiver : SocketAddress) (datagram : Datagram)
    (failure : String → Event) : Network :=
  let event :=
    if network.sends ∈ network.obstacles.sends then failure Obstacles.sendFault
    else .sent receiver datagram
  { network with sends := network.sends + 1 }.note event

end Network

end PadLink
