import PadLink.Proofs.Session.Faithful

set_option autoImplicit false

/-! # Sends that fail

Whether a datagram goes out is written into the journal and is of no further consequence. To say this
of whole runs, a session is made `smooth`: nothing is to fail when it is sent, and what failed is
written down as if it had gone out. This is a faithful disguise (`smoothing`), so every request is
answered alike, and two sessions that differ in the sends that fail are the same once they are smooth,
and remain so (`smooth_run`, `smooth_close`). -/

namespace PadLink

/-! ## Smooth journals -/

/-- A send that failed as if it had not. -/
def Event.smooth : Event → Event
  | probeFailed receiver _ => sent receiver .probe
  | pollFailed receiver datagram _ => sent receiver datagram
  | event => event

theorem Event.smooth_of_not_send {event : Event} (h : event.isSend = false) :
    event.smooth = event := by
  cases event with
  | pollFailed receiver datagram detail => cases h
  | probeFailed receiver detail => cases h
  | _ => rfl

/-- An entry as if no send had failed. -/
def Entry.smooth (entry : Entry) : Entry := { entry with event := entry.event.smooth }

namespace Network

/-- The network as if no send had failed and none were to fail. -/
def smooth (network : Network) : Network :=
  { network with
    obstacles := { network.obstacles with sends := [] }, journal := network.journal.map Entry.smooth }

theorem smooth_note (network : Network) (event : Event) :
    (network.note event).smooth = network.smooth.note event.smooth := rfl

/-- A send is attempted alike whether it fails or not. -/
theorem smooth_transmit (network : Network) {receiver : SocketAddress} {datagram : Datagram}
    {failure : String → Event} (h : ∀ reason, (failure reason).smooth = .sent receiver datagram) :
    (network.transmit receiver datagram failure).smooth
      = network.smooth.transmit receiver datagram failure := by
  unfold transmit
  dsimp only
  rw [smooth_note]
  have hclear : network.smooth.sends ∉ network.smooth.obstacles.sends := List.not_mem_nil
  rw [if_neg hclear]
  split
  · rw [h]
    rfl
  · rfl

end Network

/-- The session as if no send had failed and none were to fail. -/
def Session.smooth (session : Session) : Session :=
  { session with network := session.network.smooth }

/-! ## The disguise -/

/-- No send has failed, and none is to fail. -/
def smoothing : Disguise where
  slot _ slot := slot
  network := Network.smooth
  told _ _ := rfl
  vibration _ _ := rfl
  vibrate _ _ _ := rfl
  apply _ _ _ := rfl
  vacate _ _ := rfl
  now _ := rfl
  inbox _ := rfl
  stopAt _ := rfl
  clock _ _ := rfl
  fill _ _ := rfl
  note network event hsend _ := by rw [Network.smooth_note, Event.smooth_of_not_send hsend]
  poll network _ _ := network.smooth_transmit fun _ => rfl

theorem faithful_smoothing : smoothing.Faithful where
  slot _ _ := rfl
  note network event hsend := by
    show (network.note event).smooth = _
    rw [Network.smooth_note, Event.smooth_of_not_send hsend]
    rfl
  probe network _ := network.smooth_transmit fun _ => rfl
  bind _ := rfl
  timeout _ := rfl
  spawn _ := rfl

namespace Session

variable (session : Session)

theorem on_smoothing : smoothing.on session = session.smooth := faithful_smoothing.on_eq session

/-! ## Runs -/

/-- What comes out, with the session made smooth. -/
def smoothOutcome {α : Type} (outcome : Option (α × Session)) : Option (α × Session) :=
  outcome.map fun found => (found.1, found.2.smooth)

theorem outcome_smoothing {α : Type} (found : Option (α × Session)) :
    smoothing.outcome found = smoothOutcome found := by
  simp only [Disguise.outcome, smoothOutcome, on_smoothing]

theorem smooth_run (steps : List Step) :
    smoothOutcome (session.run steps) = session.smooth.run steps := by
  rw [← outcome_smoothing, ← on_smoothing, faithful_smoothing.on_run]

/-! ## The beginning and the end -/

theorem smooth_openWith (settings : Settings) (peer : SocketAddress) (network : Network) :
    (openWith settings peer network).smooth = openWith settings peer network.smooth := by
  rw [← on_smoothing]
  exact faithful_smoothing.on_openWith settings peer network

theorem smooth_close : session.close.smooth = session.smooth.close := by
  rw [← on_smoothing, ← on_smoothing, Disguise.on_close]

end Session

end PadLink
