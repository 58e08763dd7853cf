import Mathlib.Algebra.Ring.Nat
import PadLink.Proofs.Session.Sends

set_option autoImplicit false

/-! # Sessions that could not be started

If the local address cannot be bound or the exchange cannot be started, a session is left that has no
exchange and keeps the reason. What it answers can be written down without running it: `refusal` gives
the answer to each step, and depends on nothing but the reason and the last change of the enabled
flags.

Such a session is `Barren`: it has no wake-ups, so time only moves the clock, and its slots are the
ones of the beginning, in which no key is held. Every step leaves it so (`Barren.step`), and by induction
every run gives the answers written down, takes no time beyond what callers let pass, and writes
nothing into the journal (`unopened_run`). -/

namespace PadLink

/-! ## The answers -/

/-- How long a step takes by itself, when nobody waits in it. -/
def Step.duration : Step → Nat
  | .advance ms => ms
  | .push _ | .request _ => 0

/-- The flag that the slots have after a step. -/
def Step.enabledAfter (enabled : Bool) : Step → Bool
  | .request (.enable on) => on
  | _ => enabled

/-- The answer about a slot, or the error of an index that names none. -/
def onSlot {α : Type} (index : UInt32) (found : SlotIndex → Except Error α) : Except Error α :=
  if h : index.toNat < 4 then found ⟨index.toNat, h⟩ else .error (.invalidSlot index)

/-- What a session answers that has no exchange for the given reason, and whose slots have the given
    flag. -/
def refusal (reason : String) (enabled : Bool) : Step → Answer
  | .push _ | .advance _ | .request (.enable _) => .nothing
  | .request (.setVibration index _) => .done (onSlot index fun _ => .error (.unavailable reason))
  | .request (.state index) | .request (.extendedState index) =>
    .state (onSlot index fun _ => .error (.unavailable reason))
  | .request (.capabilities index _) =>
    .capabilities (onSlot index fun _ => .error (.unavailable reason))
  | .request (.extendedCapabilities index _) =>
    .extendedCapabilities (onSlot index fun _ => .error (.unavailable reason))
  | .request (.keystroke .any) => .keystroke (.ok none)
  | .request (.keystroke (.index index)) => .keystroke (onSlot index fun _ => .ok none)
  | .request (.battery index _) | .request (.audioDevices index) =>
    .done (onSlot index fun _ => .error (.notConnected index))
  | .request (.status index) =>
    .status (onSlot index fun slot =>
      .ok { index := slot, connected := false, enabled := enabled, vibration := {} })
  | .request .peer => .peer none

/-- What it answers to the steps of a run. -/
def refusals (reason : String) : Bool → List Step → List Answer
  | _, [] => []
  | enabled, step :: rest =>
    refusal reason enabled step :: refusals reason (step.enabledAfter enabled) rest

theorem onSlot_eq_check_bind {α : Type} (index : UInt32) (found : SlotIndex → Except Error α) :
    onSlot index found = (SlotIndex.check index).bind found := by
  unfold onSlot SlotIndex.check
  split <;> rfl

/-! ## Slots without a key -/

namespace Bank

/-- A query finds nothing and leaves everything alone if each of its slots has nothing to tell. -/
theorem firstKeystroke_of_still {slots : List SlotIndex} {bank : Bank}
    (h : ∀ slot ∈ slots, bank.nextKeystroke slot = (none, bank)) :
    firstKeystroke slots bank = (none, bank) := by
  induction slots with
  | nil => rfl
  | cons slot rest ih =>
    rw [firstKeystroke, h slot List.mem_cons_self]
    exact ih fun other hother => h other (List.mem_cons_of_mem _ hother)

/-- Slots in which nothing was ever pressed have nothing to tell. -/
theorem nextKeystroke_setEnabled_default (on : Bool) (slot : SlotIndex) :
    (({} : Bank).setEnabled on).nextKeystroke slot = (none, ({} : Bank).setEnabled on) := by
  have hslot : ∀ other, (({} : Bank).setEnabled on).slot other = { enabled := on } := by
    intro other
    rw [setEnabled, slot_mapSlots, slot_default]
  have hdetect : ({} : Gamepad).detect {} = (none, {}) := by decide
  have hquery : ({ enabled := on } : Slot).nextKeystroke slot = (none, { enabled := on }) := by
    rw [Slot.nextKeystroke, hdetect]
    rfl
  refine Prod.ext ?_ (Bank.ext (fun other => ?_) rfl)
  · show ((({} : Bank).setEnabled on).slot slot |>.nextKeystroke slot).1 = none
    rw [hslot, hquery]
  · rw [nextKeystroke, slot_modify, hslot, hquery]
    split
    · exact (hslot other).symm
    · rfl

end Bank

namespace Session

/-! ## Without an exchange -/

/-- There is no exchange, for the given reason, and of the slots at most the flag has changed. -/
structure Barren (reason : String) (enabled : Bool) (session : Session) : Prop where
  phase : session.phase = .absent reason
  bank : session.bank = ({} : Bank).setEnabled enabled

section

variable {reason : String} {enabled : Bool} {session : Session} (h : session.Barren reason enabled)

include h

theorem Barren.nextWake : session.nextWake = none := by
  rw [Session.nextWake, h.phase]
  rfl

/-- Time only moves the clock. -/
theorem Barren.advanceTo (time : Nat) : session.advanceTo time = session.atTime time :=
  advanceTo_of_later (by simp [h.nextWake])

theorem Barren.check : session.check = .error (.unavailable reason) := by
  rw [Session.check, h.phase]

/-- A wait for readiness ends before it begins. -/
theorem Barren.waitReady : session.waitReady = some (.error (.unavailable reason), session) := by
  have hlooks : session.patience
      = session.settings.readyTimeout.getD (session.settledBy - session.now)
          / session.settings.readyPoll + 1 + 1 := rfl
  rw [Session.waitReady, hlooks, lookForReady, h.check]

theorem Barren.askSlot {α : Type} (index : UInt32) (ask : Slot → Except Error α) :
    session.askSlot index ask
      = some (onSlot index fun _ => .error (.unavailable reason), session) := by
  rw [Session.askSlot, onSlot_eq_check_bind, h.waitReady]
  cases SlotIndex.check index <;> rfl

theorem Barren.setVibration (index : UInt32) (vibration : Vibration) :
    session.setVibration index vibration
      = (onSlot index fun _ => .error (.unavailable reason), session) := by
  rw [Session.setVibration, onSlot_eq_check_bind, h.check]
  cases SlotIndex.check index <;> rfl

theorem Barren.nextKeystroke (selector : Selector) :
    session.nextKeystroke selector = ((selected selector).map fun _ => none, session) := by
  have hstill : ∀ slots, Bank.firstKeystroke slots session.bank = (none, session.bank) := by
    intro slots
    refine Bank.firstKeystroke_of_still fun slot _ => ?_
    rw [h.bank]
    exact Bank.nextKeystroke_setEnabled_default enabled slot
  unfold Session.nextKeystroke
  cases selected selector with
  | error error => rfl
  | ok slots =>
    dsimp only
    rw [hstill]
    rfl

theorem Barren.status (index : UInt32) :
    session.status index = onSlot index fun slot =>
      .ok { index := slot, connected := false, enabled := enabled, vibration := {} } := by
  have hslot : ∀ slot, session.bank.slot slot = { enabled := enabled } := by
    intro slot
    rw [h.bank, Bank.setEnabled, Bank.slot_mapSlots, Bank.slot_default]
  rw [Session.status, onSlot_eq_check_bind]
  cases SlotIndex.check index with
  | error error => rfl
  | ok slot =>
    show Except.ok (session.bank.status slot) = _
    rw [Bank.status, hslot]
    rfl

theorem Barren.refuse (index : UInt32) (feature : String) :
    session.refuse index feature = onSlot index fun _ => .error (.notConnected index) := by
  have hslot : ∀ slot, (session.bank.slot slot).connected = false := by
    intro slot
    rw [h.bank, Bank.setEnabled, Bank.slot_mapSlots, Bank.slot_default]
  rw [onSlot_eq_check_bind]
  unfold Session.refuse
  cases SlotIndex.check index with
  | error error => rfl
  | ok slot =>
    show (if (session.bank.slot slot).connected then _ else _) = _
    rw [hslot]
    rfl

theorem Barren.enable (on : Bool) : (session.enable on).Barren reason on := by
  refine ⟨h.phase, Bank.ext (fun slot => ?_) ?_⟩
  · simp only [Session.enable, h.bank, Bank.setEnabled, Bank.slot_mapSlots]
  · rw [Session.enable, h.bank]
    rfl

/-- Every request is answered at once with what was written down, and changes no more than the flag. -/
theorem Barren.answer (request : Request) :
    ∃ after, session.answer request = some (refusal reason enabled (.request request), after)
      ∧ after.Barren reason (Step.enabledAfter enabled (.request request))
      ∧ after.network = session.network := by
  cases request with
  | enable on => exact ⟨session.enable on, rfl, h.enable on, rfl⟩
  | setVibration index vibration =>
    refine ⟨session, ?_, h, rfl⟩
    rw [Session.answer, h.setVibration]
    rfl
  | state index =>
    refine ⟨session, ?_, h, rfl⟩
    rw [Session.answer, Session.state, extendedState, h.askSlot, onSlot_eq_check_bind]
    simp only [refusal, onSlot_eq_check_bind]
    cases SlotIndex.check index <;> rfl
  | extendedState index =>
    refine ⟨session, ?_, h, rfl⟩
    rw [Session.answer, extendedState, h.askSlot]
    rfl
  | keystroke selector =>
    refine ⟨session, ?_, h, rfl⟩
    rw [Session.answer, h.nextKeystroke]
    cases selector with
    | any => rfl
    | index index =>
      simp only [selected, refusal, onSlot_eq_check_bind]
      cases SlotIndex.check index <;> rfl
  | capabilities index flags =>
    refine ⟨session, ?_, h, rfl⟩
    rw [Session.answer, Session.capabilities, extendedCapabilities, h.askSlot, onSlot_eq_check_bind]
    simp only [refusal, onSlot_eq_check_bind]
    cases SlotIndex.check index <;> rfl
  | extendedCapabilities index flags =>
    refine ⟨session, ?_, h, rfl⟩
    rw [Session.answer, extendedCapabilities, h.askSlot]
    rfl
  | battery index kind =>
    refine ⟨session, ?_, h, rfl⟩
    rw [Session.answer, battery, h.refuse]
    rfl
  | audioDevices index =>
    refine ⟨session, ?_, h, rfl⟩
    rw [Session.answer, audioDevices, h.refuse]
    rfl
  | status index =>
    refine ⟨session, ?_, h, rfl⟩
    rw [Session.answer, h.status]
    rfl
  | peer =>
    refine ⟨session, ?_, h, rfl⟩
    rw [Session.answer, peer?, h.phase]
    rfl

theorem Barren.step (step : Step) :
    ∃ after, session.step step = some (refusal reason enabled step, after)
      ∧ after.Barren reason (step.enabledAfter enabled)
      ∧ after.now = session.now + step.duration
      ∧ after.network.journal = session.network.journal := by
  cases step with
  | push delivery =>
    have hdelivered : ({ session with
        network := session.network.deliver delivery } : Session).Barren reason enabled :=
      ⟨h.phase, h.bank⟩
    refine ⟨session.push delivery, rfl, ?_⟩
    rw [push, advance, hdelivered.advanceTo]
    exact ⟨⟨h.phase, h.bank⟩, Nat.max_self _, rfl⟩
  | advance ms =>
    refine ⟨session.advance ms, rfl, ?_⟩
    rw [advance, h.advanceTo]
    exact ⟨⟨h.phase, h.bank⟩, Nat.max_eq_right (Nat.le_add_right _ _), rfl⟩
  | request request =>
    obtain ⟨after, hanswer, hafter, hnetwork⟩ := h.answer request
    refine ⟨after, hanswer, hafter, ?_, congrArg Network.journal hnetwork⟩
    exact congrArg Network.now hnetwork

end

/-- A run is answered as written down, however long it is. -/
theorem Barren.run {reason : String} {enabled : Bool} {session : Session}
    (h : session.Barren reason enabled) (steps : List Step) :
    ∃ last, session.run steps = some (refusals reason enabled steps, last)
      ∧ last.phase = .absent reason
      ∧ last.now = session.now + (steps.map Step.duration).sum
      ∧ last.network.journal = session.network.journal := by
  induction steps generalizing session enabled with
  | nil => exact ⟨session, rfl, h.phase, rfl, rfl⟩
  | cons step rest ih =>
    obtain ⟨next, hstep, hnext, hnow, hjournal⟩ := h.step step
    obtain ⟨last, hrest, hphase, htime, hlater⟩ := ih hnext
    refine ⟨last, run_cons_eq_some.2 ⟨_, _, _, hstep, hrest, rfl⟩, hphase, ?_, hlater.trans hjournal⟩
    rw [htime, hnow, List.map_cons, List.sum_cons, Nat.add_assoc]

/-! ## A start that fails -/

/-- The error of a start, if there is one: binding is tried first. -/
def startError? (settings : Settings) (obstacles : Obstacles) : Option Error :=
  match obstacles.bind, obstacles.spawn with
  | some detail, _ => some (.unavailable ("bind " ++ settings.bindAddress.render ++ ": " ++ detail))
  | none, some detail => some (.unavailable ("spawn worker: " ++ detail))
  | none, none => none

/-- What a start tries to send before it fails: the probe, unless there is no address to send from. -/
def startAttempts (peer : SocketAddress) (network : Network) : List Attempt :=
  if network.obstacles.bind.isSome then [] else [(network.now, peer, .probe)]

/-- A start that fails takes no time, leaves the slots alone, and has sent no more than the probe. -/
theorem openWith_of_startError {settings : Settings} (peer : SocketAddress) {network : Network}
    {error : Error} (h : startError? settings network.obstacles = some error) :
    (openWith settings peer network).Barren error.message false
      ∧ (openWith settings peer network).now = network.now
      ∧ attempts (openWith settings peer network).network.journal
        = attempts network.journal ++ startAttempts peer network
      ∧ delivered (openWith settings peer network).network.journal = delivered network.journal
        ++ surviving network.obstacles.sends network.sends (startAttempts peer network) := by
  have hbarren : ∀ before : Network,
      (unopened settings peer before error).Barren error.message false := fun _ =>
    ⟨rfl, Bank.ext (fun slot => by
      rw [Bank.setEnabled, Bank.slot_mapSlots, Bank.slot_default]
      exact Bank.slot_default slot) rfl⟩
  unfold startError? at h
  unfold openWith startAttempts
  cases hbind : network.obstacles.bind with
  | some detail =>
    rw [hbind] at h
    obtain rfl := Option.some.inj h
    obtain ⟨hfailed, hlost⟩ := attempts_note network (.bindFailed settings.bindAddress detail) rfl
    obtain ⟨hattempts, hdelivered⟩ := attempts_note
      (network.note (.bindFailed settings.bindAddress detail)) (.unavailable
        (.unavailable ("bind " ++ settings.bindAddress.render ++ ": " ++ detail))) rfl
    refine ⟨hbarren _, rfl, (hattempts.trans hfailed).trans ?_, (hdelivered.trans hlost).trans ?_⟩
    · exact (List.append_nil _).symm
    · exact (List.append_nil _).symm
  | none =>
    obtain ⟨-, hnow, hattempts, hdelivered⟩ := attempts_knock settings peer network
    rw [hbind] at h
    cases hspawn : network.obstacles.spawn with
    | none => rw [hspawn] at h; cases h
    | some detail =>
      rw [hspawn] at h
      obtain rfl := Option.some.inj h
      have hknock : (knock settings peer network).obstacles.spawn = some detail :=
        (congrArg Obstacles.spawn (obstacles_knock settings peer network)).trans hspawn
      obtain ⟨hnoted, hsent⟩ := attempts_note (knock settings peer network) (.unavailable
        (.unavailable ("spawn worker: " ++ detail))) rfl
      dsimp only
      rw [hknock]
      refine ⟨hbarren _, hnow, ?_, ?_⟩
      · exact hnoted.trans hattempts
      · exact hsent.trans hdelivered

/-- A session that could not be started answers everything at once: what needs the server is refused
    with one reason throughout, the slots are vacant and silent, no delivery makes a difference, and
    nothing was sent but a probe at most. Closing it changes nothing. -/
theorem unopened_run (settings : Settings) (peer : SocketAddress) (network : Network)
    (h : network.obstacles.bind ≠ none ∨ network.obstacles.spawn ≠ none) :
    ∃ error, startError? settings network.obstacles = some error
      ∧ (openWith settings peer network).now = network.now
      ∧ ∀ steps, ∃ last,
        (openWith settings peer network).run steps
            = some (refusals error.message false steps, last)
          ∧ last.now = network.now + (steps.map Step.duration).sum
          ∧ attempts last.network.journal = attempts network.journal ++ startAttempts peer network
          ∧ delivered last.network.journal = delivered network.journal
            ++ surviving network.obstacles.sends network.sends (startAttempts peer network)
          ∧ last.close = last := by
  obtain ⟨error, herror⟩ : ∃ error, startError? settings network.obstacles = some error := by
    unfold startError?
    cases hbind : network.obstacles.bind with
    | some detail => exact ⟨_, rfl⟩
    | none =>
      cases hspawn : network.obstacles.spawn with
      | some detail => exact ⟨_, rfl⟩
      | none => exact absurd h (by simp [hbind, hspawn])
  obtain ⟨hbarren, hnow, hattempts, hdelivered⟩ := openWith_of_startError peer herror
  refine ⟨error, herror, hnow, fun steps => ?_⟩
  obtain ⟨last, hrun, hphase, htime, hjournal⟩ := hbarren.run steps
  refine ⟨last, hrun, ?_, ?_, ?_, ?_⟩
  · rw [htime, hnow]
  · rw [hjournal, hattempts]
  · rw [hjournal, hdelivered]
  · rw [close, hphase]

/-- A session whose exchange was never started, with a state reply that nobody receives. -/
theorem unopened_run_of_spawn :
    ∃ last, (openWith {} (.v4 IPv4.localhost 0)
        { obstacles := { spawn := some "no thread" } }).run
          [.push (.payload [2, 1, 1, 0, 0, 0, 128, 128, 128, 0, 0]), .advance 50,
            .request (.enable true), .request (.state 0), .request (.keystroke .any),
            .request (.status 0), .request (.extendedState 4)]
        = some ([.nothing, .nothing, .nothing,
            .state (.error (.unavailable "Transport unavailable: spawn worker: no thread")),
            .keystroke (.ok none),
            .status (.ok { index := 0, connected := false, enabled := true, vibration := {} }),
            .state (.error (.invalidSlot 4))], last)
      ∧ last.now = 50
      ∧ attempts last.network.journal = [(0, .v4 IPv4.localhost 0, .probe)] := by
  obtain ⟨error, herror, -, hruns⟩ := unopened_run {} (.v4 IPv4.localhost 0)
    { obstacles := { spawn := some "no thread" } } (Or.inr (by decide))
  obtain rfl := Option.some.inj herror
  obtain ⟨last, hrun, hnow, hattempts, -, -⟩ := hruns
    [.push (.payload [2, 1, 1, 0, 0, 0, 128, 128, 128, 0, 0]), .advance 50,
      .request (.enable true), .request (.state 0), .request (.keystroke .any),
      .request (.status 0), .request (.extendedState 4)]
  exact ⟨last, hrun, hnow, hattempts⟩

end Session

end PadLink
