import PadLink.Session.Clock

set_option autoImplicit false

/-! # Requests to a session

Some requests need the server: they fail at once if there is no exchange, and otherwise wait until
the bank is ready. A waiting caller looks, sleeps, and looks again; it gives up when the settings'
limit has passed, and finds readiness first if both hold at once. The others answer from the bank as
it stands.

An answer of `none` means that the caller does not come back: the program ends while it sleeps, or
it would look for ever. How often a caller has to look before that is certain is bounded by
`Session.patience`. -/

namespace PadLink.Session

/-! ## Waiting for readiness -/

/-- Whether there is an exchange, or why there is none. -/
def check (session : Session) : Except Error Unit :=
  match session.phase with
  | .absent reason => .error (.unavailable reason)
  | .stopped => .error (.unavailable "transport worker has stopped")
  | .receiving _ | .pacing _ | .pulsing _ => .ok ()

/-- Let time pass while the caller sleeps, unless the program ends meanwhile. -/
def sleep (session : Session) (ms : Nat) : Option Session :=
  let after := session.advance ms
  if after.network.stopAt.any fun stop => stop ≤ after.now then none else some after

/-- Look for readiness so many times, sleeping in between. -/
def lookForReady (since : Nat) : (looks : Nat) → Session → Option (Except Error Unit × Session)
  | 0, _ => none
  | looks + 1, session =>
    match session.check with
    | .error error => some (.error error, session)
    | .ok () =>
      -- Readiness wins over a limit that has passed.
      if session.bank.ready then some (.ok (), session)
      else
        match session.settings.readyTimeout.filter (since + · ≤ session.now) with
        | some limit => some (.error (.notReady limit), session)
        | none => (session.sleep session.settings.readyPoll).bind (lookForReady since looks)

/-- A time by which everything under way has been received, and an outage has followed if silence
    can lead to one: each delivery may cost a full count of failures and a pulse, and two more of
    these come behind the last. -/
def settledBy (session : Session) : Nat :=
  let last := session.network.inbox.foldl (fun time arrival => max time arrival.time) session.now
  let round := 2 * session.settings.receiveTimeout
  let outage := (session.settings.toleratedTimeouts.toNat + 2) * round + session.settings.readyPulse
  last + (session.network.inbox.length + 2) * outage

/-- How often a caller looks at most: up to its limit, or until nothing can change any more. -/
def patience (session : Session) : Nat :=
  let wait := session.settings.readyTimeout.getD (session.settledBy - session.now)
  wait / session.settings.readyPoll + 2

/-- Wait until the bank is ready. -/
def waitReady (session : Session) : Option (Except Error Unit × Session) :=
  lookForReady session.now session.patience session

/-! ## Requests that need the server -/

/-- Ask something of a connected slot, once the bank is ready. -/
def askSlot {α : Type} (session : Session) (index : UInt32) (ask : Slot → Except Error α) :
    Option (Except Error α × Session) :=
  match SlotIndex.check index with
  | .error error => some (.error error, session)
  | .ok slot =>
    match session.waitReady with
    | none => none
    | some (.error error, session) => some (.error error, session)
    | some (.ok (), session) =>
      let slot := session.bank.slot slot
      if slot.connected then some (ask slot, session)
      else some (.error (.notConnected index), session)

/-- The state of a slot with the guide button. -/
def extendedState (session : Session) (index : UInt32) :
    Option (Except Error GamepadState × Session) :=
  session.askSlot index fun slot => .ok slot.state

/-- The state of a slot without the guide button. -/
def state (session : Session) (index : UInt32) : Option (Except Error GamepadState × Session) :=
  (session.extendedState index).map fun (answer, session) =>
    (answer.map fun state => { state with gamepad := state.gamepad.withoutGuide }, session)

/-- The capabilities and the identity of a slot's controller. A caller that asks for gamepads only
    finds nothing else. -/
def extendedCapabilities (session : Session) (index flags : UInt32) :
    Option (Except Error ExtendedCapabilities × Session) :=
  session.askSlot index fun slot =>
    if flags &&& Capabilities.gamepadOnly ≠ 0
        ∧ slot.capabilities.subType ≠ Capabilities.gamepadType then
      .error (.notConnected index)
    else .ok (.ofCapabilities slot.capabilities)

/-- The capabilities of a slot's controller. -/
def capabilities (session : Session) (index flags : UInt32) :
    Option (Except Error Capabilities × Session) :=
  (session.extendedCapabilities index flags).map fun (answer, session) =>
    (answer.map ExtendedCapabilities.capabilities, session)

/-- Set the motor speeds of a slot, which go out with the next poll. -/
def setVibration (session : Session) (index : UInt32) (vibration : Vibration) :
    Except Error Unit × Session :=
  match SlotIndex.check index with
  | .error error => (.error error, session)
  | .ok slot =>
    match session.check with
    | .error error => (.error error, session)
    | .ok () =>
      let after := { session with bank := session.bank.setVibration slot vibration }
      (.ok (), after.note (.vibrationSet slot vibration))

/-! ## Requests to the bank -/

/-- Enable or disable every slot. -/
def enable (session : Session) (on : Bool) : Session :=
  { session with bank := session.bank.setEnabled on }

/-- The slots that a selector means. -/
def selected : Selector → Except Error (List SlotIndex)
  | .any => .ok SlotIndex.all
  | .index index => (SlotIndex.check index).map fun slot => [slot]

/-- The next keystroke of the selected slots. -/
def nextKeystroke (session : Session) (selector : Selector) :
    Except Error (Option Keystroke) × Session :=
  match selected selector with
  | .error error => (.error error, session)
  | .ok slots =>
    let outcome := Bank.firstKeystroke slots session.bank
    let after := { session with bank := outcome.2 }
    (.ok outcome.1, outcome.1.elim after fun keystroke => after.note (.keystroke keystroke))

/-- The server has nothing of the kind, for any controller. -/
def refuse (session : Session) (index : UInt32) (feature : String) : Except Error Unit := do
  let slot ← SlotIndex.check index
  if (session.bank.slot slot).connected then .error (.unsupported feature)
  else .error (.notConnected index)

/-- The battery of a slot's controller, of which the server knows nothing. -/
def battery (session : Session) (index : UInt32) : Except Error Unit :=
  session.refuse index "battery information"

/-- The audio devices of a slot's controller, of which the server knows nothing. -/
def audioDevices (session : Session) (index : UInt32) : Except Error Unit :=
  session.refuse index "audio device guids"

/-- The report on a slot. -/
def status (session : Session) (index : UInt32) : Except Error SlotStatus :=
  (SlotIndex.check index).map session.bank.status

/-- The server's address, if there is an exchange with it. -/
def peer? (session : Session) : Option SocketAddress :=
  match session.phase with
  | .absent _ => none
  | _ => some session.peer

end PadLink.Session
