import PadLink.Bank
import PadLink.Network
import PadLink.Settings.Basic

set_option autoImplicit false

/-! # Sessions

A session is the exchange with one input server: it sends a poll, receives whatever comes, brings
the bank up to date, and begins again. The exchange goes on beside its callers, so a session is
described by where the exchange is waiting (`Phase`) and by what it does when its wait ends
(`Session.resume`). Between two waits nothing takes time.

A receive fails when nothing comes in time, or by a fault. Failures are counted from the last
datagram; one more than is tolerated is an outage. Then every controller is disconnected, and the
bank is made ready for the length of a pulse although nothing was received, so that waiting callers
get an answer. A fault that says more than that nothing is there is followed by a wait of the same
length as a receive, since it would otherwise come back at once.

The wait of a receive ends at its timeout or with the first delivery, whichever is earlier, and a
delivery at the very time of the timeout is received. -/

namespace PadLink

/-- Where the exchange with the server is waiting. -/
inductive Phase where
  /-- There is no exchange, for the given reason. -/
  | absent (reason : String)
  /-- It receives, until the deadline if it has one. -/
  | receiving (deadline : Option Nat)
  /-- It waits after a fault, until the given time. -/
  | pacing (time : Nat)
  /-- It holds the readiness pulse after an outage, until the given time. -/
  | pulsing (time : Nat)
  /-- It has ended. -/
  | stopped
  deriving DecidableEq, Repr

/-- The time at which the exchange goes on by itself. -/
def Phase.timer : Phase → Option Nat
  | .receiving deadline => deadline
  | .pacing time | .pulsing time => some time
  | .absent _ | .stopped => none

/-- A session with an input server. -/
structure Session where
  settings : Settings
  peer : SocketAddress
  /-- Whether receives have a timeout. -/
  timed : Bool
  network : Network
  bank : Bank := {}
  phase : Phase
  /-- How many receives in a row have failed. -/
  failures : Nat := 0
  /-- Whether a handshake has come. -/
  acknowledged : Bool := false
  /-- Whether the session is being closed. -/
  closing : Bool := false
  deriving Repr

namespace Session

/-- The session's clock. -/
def now (session : Session) : Nat := session.network.now

/-- Write an event into the session's journal. -/
def note (session : Session) (event : Event) : Session :=
  { session with network := session.network.note event }

/-! ## The beginning of a round -/

/-- The phase of a receive that begins now. -/
def receivePhase (session : Session) : Phase :=
  .receiving (if session.timed then some (session.now + session.settings.receiveTimeout) else none)

/-- Send a poll with the motor speeds as they are now. -/
def sendPoll (session : Session) : Session :=
  let datagram := Datagram.poll session.bank.vibrations
  { session with
    network := session.network.transmit session.peer datagram
      (.pollFailed session.peer datagram) }

/-- Begin a round: poll and receive, or end if the session is being closed. -/
def beginRound (session : Session) : Session :=
  if session.closing then { session.note .exchangeEnded with phase := .stopped }
  else { session.sendPoll with phase := session.receivePhase }

/-! ## The end of a receive -/

/-- The most bytes of a payload that are looked at. -/
def receiveLimit : Nat := 512

/-- The event of a change to a slot, if a controller came or went. -/
def changeEvent? : SlotIndex × SlotChange → Option Event
  | (slot, .connected) => some (.connected slot)
  | (slot, .disconnected) => some (.disconnected slot)
  | (_, .updated) | (_, .idle) => none

/-- Do what a datagram says. -/
def dispatch (session : Session) (datagram : Datagram) : Session :=
  match datagram.reply with
  | .handshake => { session with acknowledged := true }
  | .state =>
    let outcome := session.bank.applyReply datagram
    (outcome.1.filterMap changeEvent?).foldl note { session with bank := outcome.2 }
  | .unknown header => session.note (.ignored header)

/-- Take a payload in. -/
def acceptPayload (session : Session) (bytes : List UInt8) : Session :=
  let payload := bytes.take receiveLimit
  let heard := { session.note (.received payload session.peer) with failures := 0 }
  (heard.dispatch (.ofPayload payload)).beginRound

/-- The count of failures does not go beyond this. -/
def failureCap : Nat := 4294967295

/-- End the readiness pulse. -/
def endPulse (session : Session) : Session :=
  { session with bank := session.bank.setReady false }.beginRound

/-- The number of receives that an outage is told to have taken. -/
def outageAttempts (session : Session) : Nat :=
  min (session.settings.toleratedTimeouts.toNat + 1) failureCap

/-- Disconnect every controller, be ready all the same, and forget the failures. -/
def loseServer (session : Session) : Session :=
  let outcome := session.bank.disconnectAll
  { session.note (.outage session.peer session.outageAttempts outcome.1) with
    bank := outcome.2.setReady true, failures := 0 }

/-- Give the server up until it answers again, and hold readiness for the length of a pulse. -/
def declareOutage (session : Session) : Session :=
  if session.settings.readyPulse = 0 then session.loseServer.endPulse
  else
    { session.loseServer with phase := .pulsing (session.now + session.settings.readyPulse) }

/-- Count a failed receive, which may be one too many. -/
def countFailure (session : Session) : Session :=
  let failures := min (session.failures + 1) failureCap
  -- A tolerance as high as the cap is never exceeded.
  if session.settings.toleratedTimeouts.toNat < failures then session.declareOutage
  else { session with failures := failures }.beginRound

/-- Take a fault in. -/
def acceptFault (session : Session) (fault : Fault) : Session :=
  let failed := session.note (.receiveFailed fault)
  if fault.isSilence then failed.countFailure
  else { failed with phase := .pacing (session.now + session.settings.receiveTimeout) }

/-- Note that nothing came in time. -/
def expire (session : Session) : Session := (session.note (.receiveFailed none)).countFailure

/-- Take a delivery in. -/
def accept (session : Session) : Delivery → Session
  | .payload bytes => session.acceptPayload bytes
  | .fault fault => session.acceptFault fault

/-- The session without its first delivery. -/
def dropHead (session : Session) : Session :=
  { session with network := { session.network with inbox := session.network.inbox.tail } }

/-- Receive what is due, or find that nothing is. -/
def receive (session : Session) : Session :=
  match session.network.inbox.head? with
  | some arrival =>
    if arrival.time ≤ session.now then session.dropHead.accept arrival.delivery
    else session.expire
  | none => session.expire

/-! ## Waiting and going on -/

/-- The time at which the exchange goes on, if it ever does. -/
def nextWake (session : Session) : Option Nat :=
  match session.phase, session.network.inbox.head? with
  | .receiving (some deadline), some arrival => some (min arrival.time deadline)
  | .receiving none, some arrival => some arrival.time
  | phase, _ => phase.timer

/-- What the exchange does when its wait is over, up to its next wait. -/
def wake (session : Session) : Session :=
  match session.phase with
  | .receiving _ => session.receive
  | .pacing _ => session.countFailure
  | .pulsing _ => session.endPulse
  | .absent _ | .stopped => session

/-- The session with its clock put forward to a time, or left if that is past. -/
def atTime (session : Session) (time : Nat) : Session :=
  { session with network := { session.network with now := max session.network.now time } }

/-- Let the exchange go on at the given time. -/
def resume (session : Session) (time : Nat) : Session := (session.atTime time).wake

end Session

end PadLink
