import PadLink.Session.Life
import PadLink.Session.Query

set_option autoImplicit false

/-! # A session step by step

What can happen to a session from outside: something is delivered, time passes, a caller asks.
`Session.step` says what each does and answers, and `Session.run` follows a whole list of steps. -/

namespace PadLink

/-- The answer to a request. -/
inductive Answer where
  | nothing
  | done (outcome : Except Error Unit)
  | state (outcome : Except Error GamepadState)
  | capabilities (outcome : Except Error Capabilities)
  | extendedCapabilities (outcome : Except Error ExtendedCapabilities)
  | keystroke (outcome : Except Error (Option Keystroke))
  | status (outcome : Except Error SlotStatus)
  | peer (address : Option SocketAddress)

/-- What can happen to a session from outside. -/
inductive Step where
  | push (delivery : Delivery)
  | advance (ms : Nat)
  | request (request : Request)
  deriving DecidableEq, Repr

namespace Session

/-- Answer a request; `none` if the caller does not come back. -/
def answer (session : Session) : Request → Option (Answer × Session)
  | .enable on => some (.nothing, session.enable on)
  | .setVibration index vibration =>
    let outcome := session.setVibration index vibration
    some (.done outcome.1, outcome.2)
  | .state index => (session.state index).map fun outcome => (.state outcome.1, outcome.2)
  | .extendedState index =>
    (session.extendedState index).map fun outcome => (.state outcome.1, outcome.2)
  | .keystroke selector =>
    let outcome := session.nextKeystroke selector
    some (.keystroke outcome.1, outcome.2)
  | .capabilities index flags =>
    (session.capabilities index flags).map fun outcome => (.capabilities outcome.1, outcome.2)
  | .extendedCapabilities index flags =>
    (session.extendedCapabilities index flags).map fun outcome =>
      (.extendedCapabilities outcome.1, outcome.2)
  | .battery index _ => some (.done (session.battery index), session)
  | .audioDevices index => some (.done (session.audioDevices index), session)
  | .status index => some (.status (session.status index), session)
  | .peer => some (.peer session.peer?, session)

/-- Take one step; `none` if the caller does not come back. -/
def step (session : Session) : Step → Option (Answer × Session)
  | .push delivery => some (.nothing, session.push delivery)
  | .advance ms => some (.nothing, session.advance ms)
  | .request request => session.answer request

/-- Take the steps one after the other, and collect the answers. -/
def run (session : Session) : List Step → Option (List Answer × Session)
  | [] => some ([], session)
  | step :: rest => do
    let (answer, session) ← session.step step
    let (answers, session) ← session.run rest
    return (answer :: answers, session)

end Session

end PadLink
