import PadLink.Proofs.Session.Heard

set_option autoImplicit false

/-! # The rounds of the exchange

The exchange goes round: it polls, it receives, and it deals with what came of that. Of all this the
journal keeps four kinds of `Mark`s with their times: the poll, the datagram or the failure with which
a receive ended, and the outage that a failure may lead to. `Session.marks` lists those since the
exchange began, the latest first.

`Beat` says once what a wake-up does to marks, phase, count of failures and inbox, and every wake-up is
one (`beat_resume`). What a wake-up leaves alone is its `Setup`; the poll and the phase with which a
round begins depend on that only. -/

namespace PadLink

/-! ## Marks -/

/-- What the exchange leaves in the journal in the course of its rounds. -/
inductive Mark where
  /-- It tried to send a poll. -/
  | poll (receiver : SocketAddress) (datagram : Datagram)
  /-- A receive ended with a datagram, whatever is in it. -/
  | datagram
  /-- A receive failed. A paced failure is followed by a wait. -/
  | failure (paced : Bool)
  /-- It declared an outage. -/
  | outage
  deriving DecidableEq, Repr

/-- The mark that an event is. -/
def Event.mark? : Event → Option Mark
  | sent receiver datagram => some (.poll receiver datagram)
  | pollFailed receiver datagram _ => some (.poll receiver datagram)
  | received _ _ => some .datagram
  | receiveFailed fault => some (.failure (fault.any fun fault => !fault.isSilence))
  | outage _ _ _ => some .outage
  | _ => none

/-! ## What the exchange leaves alone -/

namespace Bank

theorem vibrations_congr {bank other : Bank}
    (h : ∀ slot, (bank.slot slot).vibration = (other.slot slot).vibration) :
    bank.vibrations = other.vibrations := by
  apply Vector.ext
  intro i hi
  have hslot := h ⟨i, hi⟩
  rw [← getElem_vibrations, ← getElem_vibrations] at hslot
  exact hslot

theorem vibrations_applyReply (bank : Bank) (datagram : Datagram) :
    (bank.applyReply datagram).2.vibrations = bank.vibrations := by
  apply vibrations_congr
  intro slot
  rw [slot_applyReply]
  exact (Slot.apply_keeps _ _).2

theorem vibrations_disconnectAll (bank : Bank) :
    bank.disconnectAll.2.vibrations = bank.vibrations := by
  apply vibrations_congr
  intro slot
  rw [slot_disconnectAll]
  exact (Slot.vacate_keeps _).2.2

theorem vibrations_firstKeystroke (slots : List SlotIndex) (bank : Bank) :
    (firstKeystroke slots bank).2.vibrations = bank.vibrations := by
  refine vibrations_congr fun slot => ?_
  obtain ⟨pad, hpad⟩ := slot_firstKeystroke slots bank slot
  rw [hpad]

end Bank

namespace Session

/-- What the exchange finds at a wake-up and leaves as it is. -/
structure Setup where
  settings : Settings
  peer : SocketAddress
  timed : Bool
  closing : Bool
  now : Nat
  stopAt : Option Nat
  vibrations : Vector Vibration 4

/-- The session's setup. -/
def setup (session : Session) : Setup where
  settings := session.settings
  peer := session.peer
  timed := session.timed
  closing := session.closing
  now := session.now
  stopAt := session.network.stopAt
  vibrations := session.bank.vibrations

/-- The entries of the journal since the exchange began, the latest first. -/
def entries (session : Session) : List Entry :=
  session.network.journal.takeWhile fun entry => !entry.event.isStart

/-- The marks since the exchange began with their times, the latest first. -/
def marks (session : Session) : List (Nat × Mark) :=
  session.entries.filterMap fun entry => entry.event.mark?.map fun mark => (entry.time, mark)

section

variable (session : Session)

theorem events_eq_map_entries : session.events = session.entries.map Entry.event := by
  rw [events, entries, List.takeWhile_map]
  rfl

theorem entries_note (event : Event) (h : event.isStart = false) :
    (session.note event).entries = ⟨session.now, event⟩ :: session.entries := by
  simp [entries, note, Network.note, h, now]

theorem marks_note (event : Event) (h : event.isStart = false) :
    (session.note event).marks
      = (event.mark?.map fun mark => (session.now, mark)).toList ++ session.marks := by
  rw [marks, marks, entries_note session event h, List.filterMap_cons]
  cases event.mark? <;> rfl

theorem marks_note_of_none {event : Event} (h : event.isStart = false) (hmark : event.mark? = none) :
    (session.note event).marks = session.marks := by
  rw [marks_note session event h, hmark]
  rfl

/-- Several events noted one after the other. -/
theorem notes_eq (events : List Event) :
    events.foldl note session
      = { session with
          network := { session.network with
            journal := (events.map (Entry.mk session.now)).reverse ++ session.network.journal } } := by
  induction events generalizing session with
  | nil => rfl
  | cons event rest ih =>
    rw [List.foldl_cons, ih]
    simp [note, Network.note, now]

theorem marks_notes {events : List Event}
    (h : ∀ event ∈ events, event.isStart = false ∧ event.mark? = none) :
    (events.foldl note session).marks = session.marks := by
  induction events generalizing session with
  | nil => rfl
  | cons event rest ih =>
    obtain ⟨hstart, hmark⟩ := h event List.mem_cons_self
    rw [List.foldl_cons, ih _ fun other hother => h other (List.mem_cons_of_mem _ hother),
      marks_note_of_none session hstart hmark]

/-! ## The beginning of a round -/

/-- The poll with which a round begins, unless the session is being closed. -/
def openingMarks : List (Nat × Mark) :=
  if session.closing then []
  else [(session.now, .poll session.peer (.poll session.bank.vibrations))]

/-- The phase with which a round begins. -/
def openingPhase : Phase := if session.closing then .stopped else session.receivePhase

theorem openingMarks_congr {session other : Session} (h : session.setup = other.setup) :
    session.openingMarks = other.openingMarks := by
  simp only [setup, Setup.mk.injEq] at h
  obtain ⟨-, hpeer, -, hclosing, hnow, -, hvibrations⟩ := h
  simp only [openingMarks, hpeer, hclosing, hnow, hvibrations]

theorem openingPhase_congr {session other : Session} (h : session.setup = other.setup) :
    session.openingPhase = other.openingPhase := by
  simp only [setup, Setup.mk.injEq] at h
  obtain ⟨hsettings, -, htimed, hclosing, hnow, -, -⟩ := h
  simp only [openingPhase, receivePhase, hsettings, htimed, hclosing, hnow]

theorem marks_beginRound : session.beginRound.marks = session.openingMarks ++ session.marks := by
  unfold beginRound openingMarks
  split
  · exact marks_note_of_none session rfl rfl
  · show session.sendPoll.marks = _
    unfold sendPoll Network.transmit
    dsimp only
    split
    · exact marks_note session (.pollFailed _ _ _) rfl
    · exact marks_note session (.sent _ _) rfl

theorem phase_beginRound : session.beginRound.phase = session.openingPhase := by
  unfold beginRound openingPhase
  split <;> rfl

@[simp] theorem failures_beginRound : session.beginRound.failures = session.failures := by
  unfold beginRound
  split <;> rfl

@[simp] theorem setup_beginRound : session.beginRound.setup = session.setup := by
  unfold beginRound
  split <;> rfl

/-! ## The steps of a wake-up -/

@[simp] theorem setup_notes (events : List Event) :
    (events.foldl note session).setup = session.setup := by
  rw [notes_eq]
  rfl

@[simp] theorem setup_dispatch (datagram : Datagram) :
    (session.dispatch datagram).setup = session.setup := by
  unfold dispatch
  split
  · rfl
  · rw [setup_notes]
    simp only [setup, now, Bank.vibrations_applyReply]
  · rfl

@[simp] theorem failures_dispatch (datagram : Datagram) :
    (session.dispatch datagram).failures = session.failures := by
  unfold dispatch
  split
  · rfl
  · rw [notes_eq]
  · rfl

/-- A change of a slot is an event if a controller comes or goes with it. -/
theorem changeEvent?_eq_some {change : SlotIndex × SlotChange} {event : Event}
    (h : changeEvent? change = some event) :
    event = .connected change.1 ∨ event = .disconnected change.1 := by
  obtain ⟨slot, change⟩ := change
  cases change with
  | connected => exact Or.inl (Option.some.inj h).symm
  | disconnected => exact Or.inr (Option.some.inj h).symm
  | updated => cases h
  | idle => cases h

theorem changeEvent?_aside {change : SlotIndex × SlotChange} {event : Event}
    (h : changeEvent? change = some event) : event.isStart = false ∧ event.mark? = none := by
  rcases changeEvent?_eq_some h with rfl | rfl
  · exact ⟨rfl, rfl⟩
  · exact ⟨rfl, rfl⟩

@[simp] theorem marks_dispatch (datagram : Datagram) :
    (session.dispatch datagram).marks = session.marks := by
  unfold dispatch
  split
  · rfl
  · dsimp only
    rw [marks_notes]
    · rfl
    · intro event hevent
      obtain ⟨change, -, hchange⟩ := List.mem_filterMap.1 hevent
      exact changeEvent?_aside hchange
  · exact marks_note_of_none session rfl rfl

@[simp] theorem setup_endPulse : session.endPulse.setup = session.setup := by
  unfold endPulse
  rw [setup_beginRound]
  rfl

@[simp] theorem setup_loseServer : session.loseServer.setup = session.setup := by
  have hvibrations := Bank.vibrations_disconnectAll session.bank
  simp only [loseServer, setup, now, note, Network.note]
  rw [← hvibrations]
  rfl

@[simp] theorem setup_declareOutage : session.declareOutage.setup = session.setup := by
  unfold declareOutage
  split
  · rw [setup_endPulse, setup_loseServer]
  · exact setup_loseServer session

@[simp] theorem setup_countFailure : session.countFailure.setup = session.setup := by
  unfold countFailure
  dsimp only
  split
  · exact setup_declareOutage session
  · rw [setup_beginRound]
    rfl

theorem setup_expire : session.expire.setup = session.setup := by
  unfold expire
  rw [setup_countFailure]
  rfl

theorem setup_accept (delivery : Delivery) : (session.accept delivery).setup = session.setup := by
  cases delivery with
  | payload bytes =>
    simp only [accept, acceptPayload, setup_beginRound, setup_dispatch]
    rfl
  | fault fault =>
    simp only [accept, acceptFault]
    split
    · rw [setup_countFailure]
      rfl
    · rfl

theorem setup_resume (time : Nat) : (session.resume time).setup = (session.atTime time).setup := by
  unfold resume
  generalize session.atTime time = session
  unfold wake
  split
  · unfold receive
    split
    · split
      · exact setup_accept _ _
      · exact setup_expire session
    · exact setup_expire session
  · exact setup_countFailure session
  · exact setup_endPulse session
  · rfl
  · rfl

theorem now_resume (time : Nat) : (session.resume time).now = max session.now time :=
  congrArg Setup.now (setup_resume session time)

end

/-! ## Beats -/

/-- How a receive comes to count as failed: the marks that this leaves, and the inbox behind it. -/
inductive Fails (session : Session) : List (Nat × Mark) → List Arrival → Prop
  /-- There was a fault that says no more than that nothing is there yet. -/
  | silent {deadline : Option Nat} {arrival : Arrival} {fault : Fault}
      (hphase : session.phase = .receiving deadline)
      (hhead : session.network.inbox.head? = some arrival) (hdue : arrival.time ≤ session.now)
      (hfault : arrival.delivery = .fault fault) (hsilent : fault.isSilence = true) :
      Fails session [(session.now, .failure false)] session.network.inbox.tail
  /-- Nothing came in time. -/
  | expired {deadline : Nat} (hphase : session.phase = .receiving (some deadline))
      (hdue : deadline ≤ session.now) :
      Fails session [(session.now, .failure false)] session.network.inbox
  /-- The wait behind another fault is over. The failure was marked before that wait. -/
  | rested {time : Nat} (hphase : session.phase = .pacing time) (hdue : time ≤ session.now) :
      Fails session [] session.network.inbox

/-- What a wake-up does, seen from the session whose clock stands at its time. -/
inductive Beat (session after : Session) : Prop
  /-- A datagram comes in. -/
  | heard {deadline : Option Nat} {arrival : Arrival} {bytes : List UInt8}
      (hphase : session.phase = .receiving deadline)
      (hhead : session.network.inbox.head? = some arrival) (hdue : arrival.time ≤ session.now)
      (hbytes : arrival.delivery = .payload bytes)
      (hmarks : after.marks = session.openingMarks ++ (session.now, .datagram) :: session.marks)
      (hafter : after.phase = session.openingPhase) (hfailures : after.failures = 0)
      (hinbox : after.network.inbox = session.network.inbox.tail)
  /-- A fault comes in that has to be waited out before it counts. -/
  | paced {deadline : Option Nat} {arrival : Arrival} {fault : Fault}
      (hphase : session.phase = .receiving deadline)
      (hhead : session.network.inbox.head? = some arrival) (hdue : arrival.time ≤ session.now)
      (hfault : arrival.delivery = .fault fault) (hloud : fault.isSilence = false)
      (hmarks : after.marks = (session.now, .failure true) :: session.marks)
      (hafter : after.phase = .pacing (session.now + session.settings.receiveTimeout))
      (hfailures : after.failures = session.failures)
      (hinbox : after.network.inbox = session.network.inbox.tail)
  /-- A failure is counted, and it is not one too many. -/
  | tolerated {failed : List (Nat × Mark)} {inbox : List Arrival}
      (hfails : session.Fails failed inbox)
      (hcount : min (session.failures + 1) failureCap ≤ session.settings.toleratedTimeouts.toNat)
      (hmarks : after.marks = session.openingMarks ++ (failed ++ session.marks))
      (hafter : after.phase = session.openingPhase)
      (hfailures : after.failures = min (session.failures + 1) failureCap)
      (hinbox : after.network.inbox = inbox)
  /-- A failure is counted, and it is one too many. A pulse of no length is over at once. -/
  | outage {failed : List (Nat × Mark)} {inbox : List Arrival} (hfails : session.Fails failed inbox)
      (hcount : session.settings.toleratedTimeouts.toNat < min (session.failures + 1) failureCap)
      (hmarks : after.marks = (if session.settings.readyPulse = 0 then session.openingMarks else [])
        ++ (session.now, .outage) :: (failed ++ session.marks))
      (hafter : after.phase = if session.settings.readyPulse = 0 then session.openingPhase
        else .pulsing (session.now + session.settings.readyPulse))
      (hfailures : after.failures = 0) (hinbox : after.network.inbox = inbox)
  /-- The pulse is over. -/
  | pulseEnd {time : Nat} (hphase : session.phase = .pulsing time) (hdue : time ≤ session.now)
      (hmarks : after.marks = session.openingMarks ++ session.marks)
      (hafter : after.phase = session.openingPhase) (hfailures : after.failures = session.failures)
      (hinbox : after.network.inbox = session.network.inbox)

/-- What counting a failure does, when the failure was marked on the way from an earlier session. -/
theorem beat_countFailure {session failed : Session} (marks : List (Nat × Mark))
    (hsetup : failed.setup = session.setup) (hcount : failed.failures = session.failures)
    (hmarks : failed.marks = marks ++ session.marks)
    (hfails : session.Fails marks failed.network.inbox) : Beat session failed.countFailure := by
  have hsettings : failed.settings = session.settings := congrArg Setup.settings hsetup
  have hnow : failed.now = session.now := congrArg Setup.now hsetup
  unfold countFailure
  dsimp only
  split
  · next hover =>
    rw [hsettings, hcount] at hover
    -- The outage leaves its mark, and the next round follows on it or on the pulse.
    have hlost : failed.loseServer.marks = (session.now, .outage) :: (marks ++ session.marks) := by
      rw [← hmarks, ← hnow]
      exact marks_note failed (.outage _ _ _) rfl
    have hlostSetup : failed.loseServer.setup = session.setup := by rw [setup_loseServer, hsetup]
    unfold declareOutage
    rw [hsettings]
    split
    · next hpulse =>
      have hended : ({ failed.loseServer with
          bank := failed.loseServer.bank.setReady false } : Session).setup = session.setup := hlostSetup
      refine .outage hfails hover ?_ ?_ ?_ (ahead_endPulse failed.loseServer).1
      · rw [if_pos hpulse, endPulse, marks_beginRound, openingMarks_congr hended, ← hlost]
        rfl
      · rw [if_pos hpulse, endPulse, phase_beginRound, openingPhase_congr hended]
      · rw [endPulse, failures_beginRound]
        rfl
    · next hpulse =>
      refine .outage hfails hover ?_ ?_ rfl rfl
      · rw [if_neg hpulse, List.nil_append, ← hlost]
        rfl
      · rw [if_neg hpulse, hnow]
  · next htolerated =>
    rw [hsettings, hcount] at htolerated
    rw [hcount]
    generalize hcounted : { failed with failures := min (session.failures + 1) failureCap } = counted
    have hcountedSetup : counted.setup = session.setup := by rw [← hcounted]; exact hsetup
    refine .tolerated hfails (Nat.le_of_not_lt htolerated) ?_ ?_ ?_ ?_
    · rw [marks_beginRound, openingMarks_congr hcountedSetup, ← hmarks, ← hcounted]
      rfl
    · rw [phase_beginRound, openingPhase_congr hcountedSetup]
    · rw [failures_beginRound, ← hcounted]
    · rw [(ahead_beginRound counted).1, ← hcounted]

section

variable {session : Session} {deadline : Option Nat} (hphase : session.phase = .receiving deadline)

include hphase

theorem beat_acceptPayload {arrival : Arrival} {bytes : List UInt8}
    (hhead : session.network.inbox.head? = some arrival) (hdue : arrival.time ≤ session.now)
    (hbytes : arrival.delivery = .payload bytes) :
    Beat session (session.dropHead.acceptPayload bytes) := by
  unfold acceptPayload
  dsimp only
  generalize hheard : ({ session.dropHead.note
    (.received (bytes.take receiveLimit) session.dropHead.peer) with failures := 0 } : Session) = heard
  have hmarks : heard.marks = (session.now, .datagram) :: session.marks := by
    rw [← hheard]
    exact marks_note session.dropHead (.received _ _) rfl
  have hsetup : (heard.dispatch (.ofPayload (bytes.take receiveLimit))).setup = session.setup := by
    rw [setup_dispatch, ← hheard]
    rfl
  refine .heard hphase hhead hdue hbytes ?_ ?_ ?_ ?_
  · rw [marks_beginRound, marks_dispatch, openingMarks_congr hsetup, hmarks]
  · rw [phase_beginRound, openingPhase_congr hsetup]
  · rw [failures_beginRound, failures_dispatch, ← hheard]
  · rw [(ahead_beginRound _).1, inbox_dispatch, ← hheard]
    rfl

theorem beat_acceptFault {arrival : Arrival} {fault : Fault}
    (hhead : session.network.inbox.head? = some arrival) (hdue : arrival.time ≤ session.now)
    (hfault : arrival.delivery = .fault fault) :
    Beat session (session.dropHead.acceptFault fault) := by
  have hmarks : (session.dropHead.note (.receiveFailed fault)).marks
      = (session.now, .failure (!fault.isSilence)) :: session.marks :=
    marks_note session.dropHead (.receiveFailed _) rfl
  unfold acceptFault
  dsimp only
  split
  · next hsilent =>
    rw [hsilent] at hmarks
    exact beat_countFailure [_] rfl rfl hmarks
      (.silent hphase hhead hdue hfault hsilent)
  · next hloud =>
    rw [Bool.not_eq_true] at hloud
    rw [hloud] at hmarks
    exact .paced hphase hhead hdue hfault hloud hmarks rfl rfl rfl

theorem beat_expire {time : Nat} (htimer : deadline = some time) (hdue : time ≤ session.now) :
    Beat session session.expire := by
  have hmarks : (session.note (.receiveFailed none)).marks
      = (session.now, .failure false) :: session.marks :=
    marks_note session (.receiveFailed _) rfl
  subst htimer
  exact beat_countFailure [_] rfl rfl hmarks (.expired hphase hdue)

end

/-- Every wake-up is a beat. -/
theorem beat_resume {session : Session} {time : Nat} (h : session.nextWake = some time) :
    Beat (session.atTime time) (session.resume time) := by
  have hnow : time ≤ (session.atTime time).now := Nat.le_max_right _ _
  have hphase : (session.atTime time).phase = session.phase := rfl
  unfold resume wake
  rw [hphase]
  cases hcase : session.phase with
  | absent reason => simp [nextWake, hcase, Phase.timer] at h
  | stopped => simp [nextWake, hcase, Phase.timer] at h
  | pacing until_ =>
    have htimer : until_ = time := by simpa [nextWake, hcase, Phase.timer] using h
    exact beat_countFailure [] rfl rfl rfl (.rested hcase (htimer ▸ hnow))
  | pulsing until_ =>
    have htimer : until_ = time := by simpa [nextWake, hcase, Phase.timer] using h
    refine .pulseEnd hcase (htimer ▸ hnow) ?_ ?_ ?_ (ahead_endPulse _).1
    · rw [endPulse, marks_beginRound]
      rfl
    · rw [endPulse, phase_beginRound]
      rfl
    · rw [endPulse, failures_beginRound]
  | receiving deadline =>
    -- What is not due yet leaves the receive at its deadline.
    have hexpire : (∀ arrival ∈ session.network.inbox.head?, time < arrival.time) →
        Beat (session.atTime time) (session.atTime time).expire := by
      intro hnone
      have htimer := timer_of_not_due hcase h hnone
      rw [hcase] at htimer
      exact beat_expire hcase htimer hnow
    dsimp only
    unfold receive
    split
    · next arrival hhead =>
      split
      · next hdue =>
        have hreceiving : (session.atTime time).phase = .receiving deadline := hcase
        cases hdelivery : arrival.delivery with
        | payload bytes => exact beat_acceptPayload hreceiving hhead hdue hdelivery
        | fault fault => exact beat_acceptFault hreceiving hhead hdue hdelivery
      · next hlate =>
        apply hexpire
        intro other hother
        have heq : some other = some arrival := hother.symm.trans hhead
        have : other = arrival := Option.some.inj heq
        rw [this]
        omega
    · next hempty =>
      apply hexpire
      intro other hother
      have hnone : (none : Option Arrival) = some other := hempty.symm.trans hother
      cases hnone

end Session

end PadLink
