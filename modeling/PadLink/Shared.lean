import PadLink.Session.Step
import PadLink.Settings.Load

set_option autoImplicit false

/-! # The shared session

Callers that do not hold a session of their own share one for the whole process. It is started by
the first request of any kind, with the settings of the environment, and once only: what a failed
start leaves behind is shared like any other session. Settings that cannot be used are replaced by
the defaults as a whole. Until then time passes and deliveries gather without it. -/

namespace PadLink

/-- A process in which a session may be running. -/
inductive Shared where
  /-- Nothing has been asked for yet. -/
  | idle (environment : Environment) (network : Network)
  /-- The session that everybody shares. -/
  | running (session : Session)

namespace Shared

/-- The settings that hold in an environment, or the defaults if there is anything wrong with
    them. -/
def settingsOrDefault (environment : Environment) : Settings :=
  match Settings.load environment with
  | .ok settings => settings
  | .error _ => {}

/-- The event of settings that are not used. -/
def noteIgnored (environment : Environment) (network : Network) : Network :=
  match Settings.load environment with
  | .ok _ => network
  | .error error => network.note (.settingsIgnored error)

/-- Start a session in an environment. -/
def launch (environment : Environment) (network : Network) : Session :=
  let settings := settingsOrDefault environment
  Session.start settings ((noteIgnored environment network).note (.starting settings.peer))

/-- The network around the process. -/
def network : Shared → Network
  | idle _ network => network
  | running session => session.network

/-- The shared session, started if this is its first use. -/
def session : Shared → Session
  | idle environment network => launch environment network
  | running session => session

/-- Write an event into the journal. -/
def note (event : Event) : Shared → Shared
  | idle environment network => idle environment (network.note event)
  | running session => running (session.note event)

/-- Answer a request, after noting it; `none` if the caller does not come back. -/
def answer (shared : Shared) (request : Request) : Option (Answer × Shared) :=
  -- The request is noted first: it may be the one that starts the session.
  ((shared.note (.requested request)).session.answer request).map fun outcome =>
    (outcome.1, running outcome.2)

/-- Put a delivery into the inbox, due from now on. -/
def push (shared : Shared) (delivery : Delivery) : Shared :=
  match shared with
  | idle environment network => idle environment (network.deliver delivery)
  | running session => running (session.push delivery)

/-- Let an amount of time pass. -/
def advance (shared : Shared) (ms : Nat) : Shared :=
  match shared with
  | idle environment network => idle environment { network with now := network.now + ms }
  | running session => running (session.advance ms)

/-- Take one step; `none` if the caller does not come back. -/
def step (shared : Shared) : Step → Option (Answer × Shared)
  | .push delivery => some (.nothing, shared.push delivery)
  | .advance ms => some (.nothing, shared.advance ms)
  | .request request => shared.answer request

end Shared

end PadLink
