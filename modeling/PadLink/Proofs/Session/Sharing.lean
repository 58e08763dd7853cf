import PadLink.Shared
import PadLink.Proofs.Session.Unopened

set_option autoImplicit false

/-! # The shared session is one session

Callers who share a session get the answers, and cause the sends, of one who starts a session with the
settings of the environment right before the first request and holds on to it (`shared_run`). In
particular there is one start, whatever the first request is and whatever becomes of it.

The two runs differ in the journal alone: the shared session also tells of the requests and of its
start. That this is of no consequence is said in two steps. The journal is never read, so a session
with other entries below its own does the same (`faithful_layering`); and two sessions that are alike but
for such `chatter` remain alike (`hushed_step`). -/

namespace PadLink

/-! ## What is below in the journal -/

/-- The network with older entries below its own. -/
def Network.atop (older : List Entry) (network : Network) : Network :=
  { network with journal := network.journal ++ older }

/-- A session does not notice what is below its own entries. -/
def layering (older : List Entry) : Disguise where
  slot _ := id
  network := Network.atop older
  told _ _ := rfl
  vibration _ _ := rfl
  vibrate _ _ _ := rfl
  apply _ _ _ := rfl
  vacate _ _ := rfl
  now _ := rfl
  inbox _ := rfl
  stopAt _ := rfl
  clock _ _ := rfl
  fill _ _ := rfl
  note _ _ _ _ := rfl
  poll _ _ _ := rfl

theorem faithful_layering (older : List Entry) : (layering older).Faithful where
  slot _ _ := rfl
  note _ _ _ := rfl
  probe _ _ := rfl
  bind _ := rfl
  timeout _ := rfl
  spawn _ := rfl

/-! ## Chatter -/

/-- Whether the event is told by those who share a session. -/
def Event.isChatter : Event → Bool
  | requested _ => true
  | settingsIgnored _ => true
  | starting _ => true
  | _ => false

/-- A journal without chatter. -/
def withoutChatter (journal : List Entry) : List Entry :=
  journal.filter fun entry => !entry.event.isChatter

/-- The network without chatter in its journal. -/
def Network.hushed (network : Network) : Network :=
  { network with journal := withoutChatter network.journal }

/-- The network with nothing in its journal. -/
def Network.blank (network : Network) : Network := { network with journal := [] }

theorem Network.hushed_note {event : Event} (h : event.isChatter = true) (network : Network) :
    (network.note event).hushed = network.hushed := by
  simp [hushed, withoutChatter, note, h]

/-- Alike are networks that differ at most in chatter. -/
theorem Network.hushed_atop {network other : Network} (h : network.hushed = other.hushed)
    (base : Network) :
    (base.atop network.journal).hushed = (base.atop other.journal).hushed := by
  have hjournal : withoutChatter network.journal = withoutChatter other.journal :=
    congrArg Network.journal h
  simp only [withoutChatter] at hjournal
  simp only [hushed, atop, withoutChatter, List.filter_append, hjournal]

theorem Network.blank_of_hushed {network other : Network} (h : network.hushed = other.hushed) :
    network.blank = other.blank := by
  show network.hushed.blank = other.hushed.blank
  rw [h]

namespace Session

/-- The session without chatter in its journal. -/
def hushed (session : Session) : Session := { session with network := session.network.hushed }

/-- The session with nothing in its journal. -/
def blank (session : Session) : Session := { session with network := session.network.blank }

theorem hushed_note {event : Event} (h : event.isChatter = true) (session : Session) :
    (session.note event).hushed = session.hushed :=
  congrArg (fun network => { session with network := network }) (Network.hushed_note h session.network)

theorem layering_blank (session : Session) :
    (layering session.network.journal).on session.blank = session := by
  rw [(faithful_layering _).on_eq]
  rfl

theorem hushed_layering {network other : Network} (h : network.hushed = other.hushed)
    (session : Session) : ((layering network.journal).on session).hushed
      = ((layering other.journal).on session).hushed := by
  rw [(faithful_layering _).on_eq, (faithful_layering _).on_eq]
  exact congrArg (fun network => { session with network := network })
    (Network.hushed_atop h session.network)

/-- Both come back with the same, and with sessions that differ at most in chatter, or neither does. -/
def SameButChatter {α : Type} : (found other : Option (α × Session)) → Prop :=
  Option.Rel fun found other => found.1 = other.1 ∧ found.2.hushed = other.2.hushed

/-- Chatter makes no difference to a step. -/
theorem hushed_step {session other : Session} (h : session.hushed = other.hushed) (step : Step) :
    SameButChatter (session.step step) (other.step step) := by
  have hnetwork : session.network.hushed = other.network.hushed := congrArg Session.network h
  have hblank : session.blank = other.blank := by
    show session.hushed.blank = other.hushed.blank
    rw [h]
  rw [← layering_blank session, ← layering_blank other, ← (faithful_layering _).on_step,
    ← (faithful_layering _).on_step, hblank]
  cases other.blank.step step with
  | none => exact .none
  | some found => exact .some ⟨rfl, hushed_layering hnetwork found.2⟩

/-- Nor to a start. -/
theorem hushed_openWith {network other : Network} (h : network.hushed = other.hushed)
    (settings : Settings) (peer : SocketAddress) :
    (openWith settings peer network).hushed = (openWith settings peer other).hushed := by
  have hopen : ∀ net : Network,
      openWith settings peer net = (layering net.journal).on (openWith settings peer net.blank) :=
    fun net => ((faithful_layering net.journal).on_openWith settings peer net.blank).symm
  rw [hopen network, hopen other, Network.blank_of_hushed h]
  exact hushed_layering h _

end Session

/-! ## Runs -/

/-- What those who share a session do. They ask for keystrokes by a user index. -/
inductive Call where
  | push (delivery : Delivery)
  | advance (ms : Nat)
  | request (request : Request)
  | keystroke (userIndex : UInt32)

namespace Call

/-- The step that a call is, with a user index read as a selector. -/
def step (selector : UInt32 → Selector) : Call → Step
  | push delivery => .push delivery
  | advance ms => .advance ms
  | request made => .request made
  | keystroke userIndex => .request (.keystroke (selector userIndex))

/-- Whether the call asks for something, and time does not just pass. -/
def asks : Call → Bool
  | push _ | advance _ => false
  | request _ | keystroke _ => true

end Call

/-- Take the steps one after the other, and collect the answers. -/
def Shared.run (shared : Shared) : List Step → Option (List Answer × Shared)
  | [] => some ([], shared)
  | step :: rest => do
    let (answer, shared) ← shared.step step
    let (answers, shared) ← shared.run rest
    return (answer :: answers, shared)

theorem Shared.run_cons_of_none {shared : Shared} {step : Step} (h : shared.step step = none)
    (rest : List Step) : shared.run (step :: rest) = none := by
  rw [run, h]
  rfl

theorem Shared.run_cons_of_step {shared after : Shared} {step : Step} {answer : Answer}
    (h : shared.step step = some (answer, after)) (rest : List Step) :
    shared.run (step :: rest) = (after.run rest).map fun more => (answer :: more.1, more.2) := by
  rw [run, h]
  show (after.run rest).bind _ = _
  cases after.run rest <;> rfl

/-- The answers of a session that is started with the settings right before the first request, and the
    network at the end. -/
def soleRun (settings : Settings) (network : Network) : List Step → Option (List Answer × Network)
  | [] => some ([], network)
  | .push delivery :: rest =>
    (soleRun settings (network.deliver delivery) rest).map fun more => (.nothing :: more.1, more.2)
  | .advance ms :: rest =>
    (soleRun settings { network with now := network.now + ms } rest).map fun more =>
      (.nothing :: more.1, more.2)
  | .request request :: rest =>
    ((Session.start settings network).run (.request request :: rest)).map fun found =>
      (found.1, found.2.network)

namespace Shared

theorem settingsOrDefault_eq (environment : Environment) :
    settingsOrDefault environment = (Settings.load environment).toOption.getD {} := by
  unfold settingsOrDefault
  cases Settings.load environment <;> rfl

theorem hushed_noteIgnored (environment : Environment) (network : Network) :
    (noteIgnored environment network).hushed = network.hushed := by
  unfold noteIgnored
  split
  · rfl
  · exact Network.hushed_note rfl network

/-- The shared session is started like any other, but for chatter. -/
theorem hushed_launch (environment : Environment) {network other : Network}
    (h : network.hushed = other.hushed) : (launch environment network).hushed
      = (Session.start (settingsOrDefault environment) other).hushed := by
  refine Session.hushed_openWith ?_ _ _
  rw [Network.hushed_note rfl, hushed_noteIgnored, h]

/-- The same answers, and networks that differ at most in chatter. -/
def SameButChatter : (shared : Option (List Answer × Shared)) →
    (sole : Option (List Answer × Network)) → Prop :=
  Option.Rel fun shared sole => shared.1 = sole.1 ∧ shared.2.network.hushed = sole.2.hushed

/-- The same answer, and a running session that differs from the other at most in chatter. -/
def Follows : (shared : Option (Answer × Shared)) → (sole : Option (Answer × Session)) → Prop :=
  Option.Rel fun shared sole => shared.1 = sole.1
    ∧ ∃ after, shared.2 = running after ∧ after.hushed = sole.2.hushed

/-- A request is made of the session behind its note, whether that was running or not. -/
theorem follows_answer {shared : Shared} {other : Session} {request : Request}
    (h : (shared.note (.requested request)).session.hushed = other.hushed) :
    Follows (shared.answer request) (other.step (.request request)) := by
  have hstep := Session.hushed_step h (.request request)
  show Follows (((shared.note (.requested request)).session.step (.request request)).map _) _
  generalize (shared.note (.requested request)).session.step (.request request) = found at hstep ⊢
  generalize other.step (.request request) = sole at hstep ⊢
  cases hstep with
  | none => exact .none
  | some hboth => exact .some ⟨hboth.1, _, rfl, hboth.2⟩

/-- While the session runs, a step of those who share it is a step of the session. -/
theorem follows_step {session other : Session} (h : session.hushed = other.hushed) (step : Step) :
    Follows ((running session).step step) (other.step step) := by
  cases step with
  | push delivery =>
    cases Session.hushed_step h (.push delivery) with
    | some hstep => exact .some ⟨rfl, _, rfl, hstep.2⟩
  | advance ms =>
    cases Session.hushed_step h (.advance ms) with
    | some hstep => exact .some ⟨rfl, _, rfl, hstep.2⟩
  | request request => exact follows_answer ((Session.hushed_note rfl session).trans h)

theorem sameButChatter_map {shared : Option (List Answer × Shared)}
    {sole : Option (List Answer × Network)} (answer : Answer) (h : SameButChatter shared sole) :
    SameButChatter (shared.map fun more => (answer :: more.1, more.2))
      (sole.map fun more => (answer :: more.1, more.2)) := by
  cases h with
  | none => exact .none
  | some h => exact .some ⟨congrArg (answer :: ·) h.1, h.2⟩

/-- The rest of a run follows its first step. -/
theorem sameButChatter_cons {shared : Shared} {sole : Session} {step : Step} {rest : List Step}
    (hstep : Follows (shared.step step) (sole.step step))
    (hrest : ∀ session other : Session, session.hushed = other.hushed →
      SameButChatter ((running session).run rest)
        ((other.run rest).map fun found => (found.1, found.2.network))) :
    SameButChatter (shared.run (step :: rest))
      ((sole.run (step :: rest)).map fun found => (found.1, found.2.network)) := by
  rcases hfound : shared.step step with _ | ⟨answer, next⟩
  · rcases hsole : sole.step step with _ | reply
    · rw [run_cons_of_none hfound, Session.run_cons_of_none hsole]
      exact .none
    · rw [hfound, hsole] at hstep
      cases hstep
  · rcases hsole : sole.step step with _ | ⟨reply, other⟩
    · rw [hfound, hsole] at hstep
      cases hstep
    · rw [hfound, hsole] at hstep
      cases hstep with
      | some hboth =>
        obtain ⟨rfl, after, rfl, halike⟩ := hboth
        rw [run_cons_of_step hfound, Session.run_cons_of_step hsole, Option.map_map]
        have hmore := sameButChatter_map answer (hrest after other halike)
        rwa [Option.map_map] at hmore

theorem run_running {session other : Session} (h : session.hushed = other.hushed)
    (steps : List Step) : SameButChatter ((running session).run steps)
      ((other.run steps).map fun found => (found.1, found.2.network)) := by
  induction steps generalizing session other with
  | nil => exact .some ⟨rfl, congrArg Session.network h⟩
  | cons step rest ih => exact sameButChatter_cons (follows_step h step) fun _ _ hnext => ih hnext

theorem run_idle (environment : Environment) (network : Network) (steps : List Step) :
    SameButChatter ((idle environment network).run steps)
      (soleRun (settingsOrDefault environment) network steps) := by
  induction steps generalizing network with
  | nil => exact .some ⟨rfl, rfl⟩
  | cons step rest ih =>
    cases step with
    -- Before the first request both are the same network, through which time passes.
    | push delivery =>
      rw [run_cons_of_step rfl]
      exact sameButChatter_map .nothing (ih (network.deliver delivery))
    | advance ms =>
      rw [run_cons_of_step rfl]
      exact sameButChatter_map .nothing (ih { network with now := network.now + ms })
    | request request =>
      refine sameButChatter_cons (follows_answer ?_) fun _ _ hnext => run_running hnext rest
      exact hushed_launch environment (Network.hushed_note rfl network)

end Shared

/-! ## One start -/

/-- Whether the event tells of an attempt to bind the local address. -/
def Event.isBind : Event → Bool
  | bound _ => true
  | bindFailed _ _ => true
  | _ => false

/-- How often it was attempted to bind a local address. -/
def binds (journal : List Entry) : Nat := journal.countP fun entry => entry.event.isBind

theorem isBind_of_not_opening {event : Event} (h : event.isOpening = false) :
    event.isBind = false := by
  cases event with
  | bound address => cases h
  | bindFailed address detail => cases h
  | _ => rfl

theorem binds_note (network : Network) {event : Event} (h : event.isBind = false) :
    binds (network.note event).journal = binds network.journal := by
  simp [binds, Network.note, h]

theorem binds_transmit (network : Network) (peer : SocketAddress) (datagram : Datagram)
    {failure : String → Event} (h : ∀ reason, (failure reason).isBind = false) :
    binds (network.transmit peer datagram failure).journal = binds network.journal := by
  refine binds_note { network with sends := network.sends + 1 } ?_
  split
  · exact h _
  · rfl

namespace Session

theorem kept_binds (peer : SocketAddress) (n : Nat) :
    Network.Kept peer fun network => binds network.journal = n where
  note network _ _ _ hopening h := (binds_note network (isBind_of_not_opening hopening)).trans h
  poll network _ h := (binds_transmit network peer _ fun _ => rfl).trans h
  inbox _ _ h := h
  clock _ _ h := h

theorem binds_knock (settings : Settings) (peer : SocketAddress) (network : Network) :
    binds (knock settings peer network).journal = binds network.journal + 1 := by
  have hbound : binds (network.note (.bound settings.bindAddress)).journal
      = binds network.journal + 1 := by
    simp [binds, Network.note, Event.isBind]
  unfold knock
  dsimp only
  rw [binds_transmit _ _ _ fun _ => rfl]
  split
  · rw [binds_note _ rfl, hbound]
  · exact hbound

/-- A start that fails has tried to bind once, whether it failed in that or later. -/
theorem binds_of_startError {settings : Settings} (peer : SocketAddress) {network : Network}
    {error : Error} (h : startError? settings network.obstacles = some error) :
    binds (openWith settings peer network).network.journal = binds network.journal + 1 := by
  unfold startError? at h
  unfold openWith
  cases hbind : network.obstacles.bind with
  | some detail =>
    simp [unopened, Network.note, binds, Event.isBind]
  | none =>
    rw [hbind] at h
    cases hspawn : network.obstacles.spawn with
    | none => rw [hspawn] at h; cases h
    | some detail =>
      have hknock : (knock settings peer network).obstacles.spawn = some detail :=
        (congrArg Obstacles.spawn (obstacles_knock settings peer network)).trans hspawn
      dsimp only
      rw [hknock]
      exact (binds_note _ rfl).trans (binds_knock settings peer network)

/-- From a start on it was tried once to bind, however it ended. -/
theorem binds_of_run {settings : Settings} {peer : SocketAddress} {network : Network}
    {steps : List Step} {answers : List Answer} {last : Session}
    (hrun : (openWith settings peer network).run steps = some (answers, last)) :
    binds last.network.journal = binds network.journal + 1 := by
  cases hstart : startError? settings network.obstacles with
  | some error =>
    obtain ⟨reached, hbarren, -, -, hjournal⟩ := (openWith_of_startError peer hstart).1.run steps
    obtain ⟨-, rfl⟩ := Prod.mk.inj (Option.some.inj (hrun.symm.trans hbarren))
    rw [hjournal, binds_of_startError peer hstart]
  | none =>
    have hkept := kept_binds peer (binds network.journal + 1)
    have hlaunch := has_launch settings peer (knock settings peer network) hkept
      ((binds_note _ rfl).trans (binds_knock settings peer network))
    unfold startError? at hstart
    rcases hbind : network.obstacles.bind with _ | detail
    · rcases hspawn : network.obstacles.spawn with _ | detail
      · exact (openWith_induction (fun _ _ hmove => has_move hkept hmove)
          (fun _ selector => has_nextKeystroke hkept selector) hbind hspawn hlaunch hrun
          (Or.inl rfl)).2
      · rw [hbind, hspawn] at hstart
        cases hstart
    · rw [hbind] at hstart
      cases hstart

end Session

/-- A start happens with the first request, if there is one. -/
theorem binds_of_soleRun {settings : Settings} {network last : Network} {calls : List Call}
    {selector : UInt32 → Selector} {answers : List Answer}
    (h : soleRun settings network (calls.map (Call.step selector)) = some (answers, last)) :
    binds last.journal = binds network.journal + if calls.any Call.asks then 1 else 0 := by
  induction calls generalizing network answers with
  | nil =>
    obtain ⟨-, rfl⟩ := Prod.mk.inj (Option.some.inj h)
    rfl
  | cons call rest ih =>
    have hasked : ∀ request, ((Session.start settings network).run
          (.request request :: rest.map (Call.step selector))).map
            (fun found => (found.1, found.2.network)) = some (answers, last) →
        binds last.journal = binds network.journal + 1 := by
      intro request hrun
      obtain ⟨⟨others, reached⟩, hreached, heq⟩ := Option.map_eq_some_iff.1 hrun
      obtain ⟨-, rfl⟩ := Prod.mk.inj heq
      exact Session.binds_of_run hreached
    cases call with
    | push delivery =>
      obtain ⟨⟨others, reached⟩, hrest, heq⟩ := Option.map_eq_some_iff.1 h
      obtain ⟨-, rfl⟩ := Prod.mk.inj heq
      exact @ih (network.deliver delivery) others hrest
    | advance ms =>
      obtain ⟨⟨others, reached⟩, hrest, heq⟩ := Option.map_eq_some_iff.1 h
      obtain ⟨-, rfl⟩ := Prod.mk.inj heq
      exact @ih { network with now := network.now + ms } others hrest
    | request request => exact hasked request h
    | keystroke userIndex => exact hasked _ h

/-! ## What the network tells -/

/-- Nothing but chatter is missing. -/
theorem filterMap_hushed {α : Type} {f : Entry → Option α}
    (h : ∀ entry : Entry, entry.event.isChatter = true → f entry = none) (network : Network) :
    network.hushed.journal.filterMap f = network.journal.filterMap f := by
  rw [Network.hushed, withoutChatter, List.filterMap_filter]
  refine congrArg (fun f => network.journal.filterMap f) (funext fun entry => ?_)
  cases hchatter : entry.event.isChatter with
  | false => rfl
  | true => exact (h entry hchatter).symm

/-- It is the same time, the same was sent at the same times, and it was tried as often to bind. -/
theorem told_of_hushed {network other : Network} (h : network.hushed = other.hushed) :
    network.now = other.now ∧ attempts network.journal = attempts other.journal
      ∧ delivered network.journal = delivered other.journal
      ∧ binds network.journal = binds other.journal := by
  have hsame : ∀ {α : Type} {f : Entry → Option α},
      (∀ entry : Entry, entry.event.isChatter = true → f entry = none) →
      network.journal.filterMap f = other.journal.filterMap f := by
    intro α f hf
    rw [← filterMap_hushed hf network, h, filterMap_hushed hf other]
  have hsilent : ∀ entry : Entry, entry.event.isChatter = true →
      entry.attempt? = none ∧ entry.sent? = none ∧ entry.event.isBind = false := by
    rintro ⟨time, event⟩ hchatter
    cases event with
    | requested request => exact ⟨rfl, rfl, rfl⟩
    | settingsIgnored error => exact ⟨rfl, rfl, rfl⟩
    | starting peer => exact ⟨rfl, rfl, rfl⟩
    | _ => cases hchatter
  have hnow : network.hushed.now = other.hushed.now := by rw [h]
  refine ⟨hnow, ?_, ?_, ?_⟩
  · exact congrArg List.reverse (hsame fun entry hentry => (hsilent entry hentry).1)
  · exact congrArg List.reverse (hsame fun entry hentry => (hsilent entry hentry).2.1)
  · have hbinds : ∀ one : Network, binds one.hushed.journal = binds one.journal := by
      intro one
      rw [Network.hushed, withoutChatter, binds, List.countP_filter]
      refine List.countP_congr fun entry _ => ?_
      cases hchatter : entry.event.isChatter with
      | false => simp
      | true => simp [(hsilent entry hchatter).2.2]
    rw [← hbinds network, h, hbinds other]

/-! ## A call that stays -/

namespace Shared

theorem run_append {shared reached : Shared} {before : List Step} {answers : List Answer}
    (h : shared.run before = some (answers, reached)) (rest : List Step) :
    shared.run (before ++ rest)
      = (reached.run rest).map fun more => (answers ++ more.1, more.2) := by
  induction before generalizing shared answers with
  | nil =>
    obtain ⟨rfl, rfl⟩ := Prod.mk.inj (Option.some.inj h)
    exact Option.map_id'.symm
  | cons step before ih =>
    rcases hstep : shared.step step with _ | ⟨answer, next⟩
    · rw [run_cons_of_none hstep] at h
      cases h
    · rw [run_cons_of_step hstep] at h
      obtain ⟨⟨others, last⟩, hbefore, heq⟩ := Option.map_eq_some_iff.1 h
      obtain ⟨rfl, rfl⟩ := Prod.mk.inj heq
      rw [List.cons_append, run_cons_of_step hstep, ih hbefore, Option.map_map]
      rfl

variable {environment : Environment} {network : Network} {calls : List Call}
  {answers : List Answer} {reached : Shared}

/-- The one start of a run shows in its journal as well as in that of the session that is held alone. -/
theorem binds_of_run
    (h : (idle environment network).run (calls.map (Call.step Selector.ofUserIndex))
      = some (answers, reached)) :
    binds reached.network.journal
      = binds network.journal + if calls.any Call.asks then 1 else 0 := by
  have hrun := run_idle environment network (calls.map (Call.step Selector.ofUserIndex))
  rw [h] at hrun
  rcases hsole : soleRun (settingsOrDefault environment) network
    (calls.map (Call.step Selector.ofUserIndex)) with _ | ⟨others, last⟩
  · rw [hsole] at hrun
    cases hrun
  · rw [hsole] at hrun
    cases hrun with
    | some halike => exact (told_of_hushed halike.2).2.2.2.trans (binds_of_soleRun hsole)

/-- The session that a request is put to, whichever it is, up to chatter. -/
theorem hushed_asked (shared : Shared) (request other : Request) :
    (shared.note (.requested request)).session.hushed
      = (shared.note (.requested other)).session.hushed := by
  cases shared with
  | idle environment network =>
    have hnetwork : (network.note (.requested request)).hushed
        = (network.note (.requested other)).hushed := by
      rw [Network.hushed_note rfl, Network.hushed_note rfl]
    exact (hushed_launch environment hnetwork).trans (hushed_launch environment rfl).symm
  | running session =>
    exact (Session.hushed_note rfl session).trans (Session.hushed_note rfl session).symm

/-- The session that a request is put to has bound once, and keeps to that for as long as the caller
    waits. -/
theorem binds_of_asked
    (h : (idle environment network).run (calls.map (Call.step Selector.ofUserIndex))
      = some (answers, reached)) (request : Request) :
    let asked := (reached.note (.requested request)).session
    binds asked.network.journal = binds network.journal + 1
      ∧ ∀ ms, binds (asked.advance ms).network.journal = binds network.journal + 1 := by
  intro asked
  -- A request that is answered at once stands for the one that may not be.
  let present := (reached.note (.requested .peer)).session
  have halike : present.hushed = asked.hushed := hushed_asked reached .peer request
  have hpresent : ∀ (rest : List Call) (others : List Answer) (last : Shared),
      reached.run (.request .peer :: rest.map (Call.step Selector.ofUserIndex)) = some (others, last) →
      binds last.network.journal = binds network.journal + 1 := by
    intro rest others last hlast
    have hwhole : (idle environment network).run
        ((calls ++ .request .peer :: rest).map (Call.step Selector.ofUserIndex))
        = some (answers ++ others, last) := by
      rw [List.map_append, run_append h, List.map_cons, Call.step, hlast, Option.map_some]
    rw [binds_of_run hwhole]
    simp [Call.asks]
  constructor
  · rw [← (told_of_hushed (congrArg Session.network halike)).2.2.2]
    exact hpresent [] _ (running present) rfl
  · intro ms
    have hlater : (present.advance ms).hushed = (asked.advance ms).hushed := by
      cases Session.hushed_step halike (.advance ms) with
      | some hstep => exact hstep.2
    rw [← (told_of_hushed (congrArg Session.network hlater)).2.2.2]
    exact hpresent [.advance ms] _ (running (present.advance ms)) rfl

end Shared

/-- Whatever is called, in whatever environment: those who share a session get the answers of a session
    that is started with the environment's settings, or the defaults if these cannot be used, right
    before the first request. It is the same time after each call, and the same is sent at the same
    times. A user index of 255 means any slot. And the local address is bound, or it is tried to, exactly
    once if anything is asked for at all, also if a call does not come back: the session that it is put
    to has bound by then, and does not bind again however long the caller waits. -/
theorem shared_run (environment : Environment) (network : Network) (calls : List Call) :
    Option.Rel (fun shared sole => shared.1 = sole.1
        ∧ shared.2.network.now = sole.2.now
        ∧ attempts shared.2.network.journal = attempts sole.2.journal
        ∧ delivered shared.2.network.journal = delivered sole.2.journal
        ∧ binds shared.2.network.journal
          = binds network.journal + if calls.any Call.asks then 1 else 0)
      ((Shared.idle environment network).run (calls.map (Call.step Selector.ofUserIndex)))
      (soleRun ((Settings.load environment).toOption.getD {}) network
        (calls.map (Call.step fun userIndex =>
          if userIndex = 255 then .any else .index userIndex)))
      ∧ ∀ answers reached,
        (Shared.idle environment network).run (calls.map (Call.step Selector.ofUserIndex))
          = some (answers, reached) →
        ∀ request : Request,
          let asked := (reached.note (.requested request)).session
          reached.answer request = (asked.answer request).map (fun found => (found.1, .running found.2))
            ∧ binds asked.network.journal = binds network.journal + 1
            ∧ ∀ ms, binds (asked.advance ms).network.journal = binds network.journal + 1 := by
  have hselector : Selector.ofUserIndex
      = fun userIndex => if userIndex = 255 then .any else .index userIndex := rfl
  have hrun := Shared.run_idle environment network (calls.map (Call.step Selector.ofUserIndex))
  refine ⟨?_, fun answers reached hreached request => ⟨rfl, Shared.binds_of_asked hreached request⟩⟩
  have hbinds := @Shared.binds_of_run environment network calls
  rw [← hselector, ← Shared.settingsOrDefault_eq]
  generalize (Shared.idle environment network).run _ = shared at hrun hbinds ⊢
  rcases hsole : soleRun (Shared.settingsOrDefault environment) network
    (calls.map (Call.step Selector.ofUserIndex)) with _ | ⟨answers, last⟩
  · rw [hsole] at hrun
    cases hrun
    exact .none
  · rw [hsole] at hrun
    cases hrun with
    | some halike =>
      obtain ⟨hnow, hattempts, hdelivered, -⟩ := told_of_hushed halike.2
      exact .some ⟨halike.1, hnow, hattempts, hdelivered, hbinds rfl⟩

/-- Receives have no timeout, so that silence is not noticed, and nobody answers. The first request does
    not come back, and the session has bound once all the same. -/
theorem shared_run_of_silence :
    let environment : Environment := { file := some (.text ("\x7b\"recv_timeout_ms\":1,"
      ++ "\"max_consecutive_timeouts\":0,\"ready_flash_ms\":2\x7d")) }
    let process : Shared := .idle environment { obstacles := { timeout := some "refused" } }
    (process.run [.request (.state 0)]).isNone = true
      ∧ ∀ ms, binds ((process.note (.requested (.state 0))).session.advance ms).network.journal = 1 := by
  intro environment process
  refine ⟨by decide +kernel, fun ms => ?_⟩
  obtain ⟨-, hasked⟩ := shared_run environment { obstacles := { timeout := some "refused" } } []
  exact (hasked [] process rfl (.state 0)).2.2 ms

/-- A first request for a slot that does not exist starts the session, and the failure lasts. -/
example : ((Shared.idle {} { obstacles := { bind := some "in use" } }).run
      [.request (.state 7), .request (.state 0)]).map
        (fun found => (found.1, binds found.2.network.journal))
    = some ([.state (.error (.invalidSlot 7)),
        .state (.error (.unavailable "Transport unavailable: bind 0.0.0.0:0: in use"))], 1) := by
  rfl

end PadLink
