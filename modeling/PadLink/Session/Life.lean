import PadLink.Session.Clock

set_option autoImplicit false

/-! # The beginning and the end of a session

A session begins by binding its local address, probing the server, and starting the exchange; the
caller then waits for the handshake, but no longer than the settings allow, and goes on without it
if it does not come. If the address cannot be bound or the exchange cannot be started, there is a
session without an exchange, which keeps the reason and gives it to every caller that needs the
server.

Closing tells the exchange to end. It looks at this only at the beginning of a round, so it first
finishes what it is waiting for: a receive, the wait after a fault, the readiness pulse. These are
at most three waits in a row. -/

namespace PadLink.Session

/-! ## Opening -/

/-- Wait for the handshake, up to the settings' limit. A handshake that comes at the very end
    counts. -/
def awaitHandshake (session : Session) : Session :=
  let limit := session.settings.handshakeWait
  let waited := session.follow (session.now + limit) Session.acknowledged
  if waited.acknowledged then waited.note (.acknowledged session.peer)
  else (waited.atTime (session.now + limit)).note (.unacknowledged session.peer limit)

/-- The session that could not be started. -/
def unopened (settings : Settings) (peer : SocketAddress) (network : Network) (error : Error) :
    Session where
  settings := settings
  peer := peer
  timed := network.obstacles.timeout.isNone
  network := network.note (.unavailable error)
  phase := .absent error.message

/-- Bind the local address, set the receive timeout, and send the probe. -/
def knock (settings : Settings) (peer : SocketAddress) (network : Network) : Network :=
  let bound := network.note (.bound settings.bindAddress)
  let prepared := match network.obstacles.timeout with
    | some detail => bound.note (.timeoutRefused detail)
    | none => bound
  prepared.transmit peer .probe (.probeFailed peer)

/-- The session whose exchange begins its first round. -/
def launch (settings : Settings) (peer : SocketAddress) (network : Network) : Session :=
  let session : Session :=
    { settings := settings, peer := peer, timed := network.obstacles.timeout.isNone,
      network := network.note (.exchangeStarted peer), phase := .receiving none }
  session.beginRound

/-- Begin a session with the server at an address. -/
def openWith (settings : Settings) (peer : SocketAddress) (network : Network) : Session :=
  match network.obstacles.bind with
  | some detail =>
    unopened settings peer (network.note (.bindFailed settings.bindAddress detail))
      (.unavailable ("bind " ++ settings.bindAddress.render ++ ": " ++ detail))
  | none =>
    let network := knock settings peer network
    match network.obstacles.spawn with
    | some detail => unopened settings peer network (.unavailable ("spawn worker: " ++ detail))
    | none => (launch settings peer network).awaitHandshake

/-- Begin a session with the server that the settings name. -/
def start (settings : Settings) (network : Network) : Session :=
  openWith settings settings.peer network

/-! ## Closing -/

/-- Let the exchange come to the end of its wait, however long that is. -/
def finishWait (session : Session) : Session :=
  match session.nextWake with
  | some time => session.resume time
  | none => session

/-- A receive without an end is ended by an empty payload. -/
def unblock (session : Session) : Session :=
  match session.phase, session.nextWake with
  | .receiving _, none =>
    { session with network := session.network.deliver (.payload []) }
  | _, _ => session

/-- Tell the exchange to end, and let time pass until it has. -/
def close (session : Session) : Session :=
  match session.phase with
  | .absent _ => session
  | _ =>
    -- At the longest a receive fails by a fault, is paced, and then turns out to be an outage.
    let told := { session.note .closing with closing := true }
    told.unblock.finishWait.finishWait.finishWait

end PadLink.Session
