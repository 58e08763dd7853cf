import PadLink.Proofs.Session.Attained

set_option autoImplicit false

/-! # Waiting for the handshake

A start waits for a datagram with the header of a handshake. When such datagrams were taken in stands in
the journal (`Session.handshakes`); the signal that the caller waits for is a flag of the session. Only
taking in a handshake changes either of them, and then both (`Move.signal`), so the flag is set just when
there was a handshake (`Attained.acknowledged_iff`): a signal is not lost, whether anybody waits for it or
not, and nothing else gives it.

The exchange does not know that a caller waits for it. Followed up to any instant it has done the same
(`follow_eq_advanceTo`), so the instant at which the caller goes on can be read off the exchange as it
would be without a caller (`wait_ends_at_handshake`). -/

namespace PadLink

/-! ## Handshakes in the journal -/

/-- The payload has the header of a handshake. -/
def IsHandshake (payload : List UInt8) : Prop := payload.head? = some 1

instance (payload : List UInt8) : Decidable (IsHandshake payload) :=
  inferInstanceAs (Decidable (payload.head? = some 1))

/-- The delivery is a handshake, and can be received. -/
structure Arrival.DueHandshake (arrival : Arrival) (now : Nat) : Prop where
  due : arrival.time ≤ now
  payload : ∃ payload, arrival.delivery = .payload payload ∧ IsHandshake payload

/-- Whether the event is that a handshake was received. -/
def Event.isHandshake : Event → Bool
  | received payload _ => decide (IsHandshake payload)
  | _ => false

/-- A receive does not cut off the header. -/
theorem isHandshake_take {payload : List UInt8} {limit : Nat} (hlimit : 0 < limit) :
    IsHandshake (payload.take limit) ↔ IsHandshake payload := by
  rw [IsHandshake, IsHandshake, List.head?_take, if_neg (Nat.ne_of_gt hlimit)]

/-- The header of the datagram that a payload stands for is that of the payload, and no padding is. -/
theorem Datagram.reply_eq_handshake (payload : List UInt8) :
    (ofPayload payload).reply = .handshake ↔ IsHandshake payload := by
  have hheader : (ofPayload payload)[0] = payload.headD 0 := by
    rw [getElem_ofPayload]
    cases payload <;> rfl
  unfold reply
  rw [hheader, connectionHeader, stateHeader, IsHandshake]
  cases payload with
  | nil => decide
  | cons header rest =>
    rw [List.headD_cons, List.head?_cons, Option.some.injEq]
    split
    · next heq => exact iff_of_true rfl heq
    · next hne => split <;> exact iff_of_false (by simp) hne

namespace Session

/-- The times at which handshakes were received since the exchange began, the latest first. -/
def handshakes (session : Session) : List Nat :=
  (session.entries.filter fun entry => entry.event.isHandshake).map Entry.time

/-- When the first handshake was received, if there was any. -/
def firstHandshake? (session : Session) : Option Nat := session.handshakes.getLast?

/-- The handshakes that were received, and whether the caller was told of one. -/
def signal (session : Session) : List Nat × Bool := (session.handshakes, session.acknowledged)

section

variable (session : Session)

theorem handshakes_note (event : Event) (hstart : event.isStart = false) :
    (session.note event).handshakes
      = if event.isHandshake then session.now :: session.handshakes else session.handshakes := by
  rw [handshakes, handshakes, entries_note session event hstart, List.filter_cons]
  split <;> rfl

theorem signal_note (event : Event) (hstart : event.isStart = false)
    (hother : event.isHandshake = false) : (session.note event).signal = session.signal := by
  rw [signal, handshakes_note session event hstart, hother]
  rfl

theorem signal_notes {events : List Event}
    (h : ∀ event ∈ events, event.isStart = false ∧ event.isHandshake = false) :
    (events.foldl note session).signal = session.signal := by
  induction events generalizing session with
  | nil => rfl
  | cons event rest ih =>
    obtain ⟨hstart, hother⟩ := h event List.mem_cons_self
    rw [List.foldl_cons, ih _ fun other hmem => h other (List.mem_cons_of_mem _ hmem),
      signal_note session event hstart hother]

/-! ## What a wake-up does to the signal -/

theorem signal_beginRound : session.beginRound.signal = session.signal := by
  unfold beginRound
  split
  · exact signal_note session .exchangeEnded rfl rfl
  · show session.sendPoll.signal = _
    unfold sendPoll Network.transmit
    dsimp only
    split
    · exact signal_note session (.pollFailed _ _ _) rfl rfl
    · exact signal_note session (.sent _ _) rfl rfl

theorem signal_endPulse : session.endPulse.signal = session.signal := by
  unfold endPulse
  rw [signal_beginRound]
  rfl

theorem signal_loseServer : session.loseServer.signal = session.signal :=
  signal_note session (.outage _ _ _) rfl rfl

theorem signal_declareOutage : session.declareOutage.signal = session.signal := by
  unfold declareOutage
  split
  · rw [signal_endPulse, signal_loseServer]
  · exact signal_loseServer session

theorem signal_countFailure : session.countFailure.signal = session.signal := by
  unfold countFailure
  dsimp only
  split
  · exact signal_declareOutage session
  · rw [signal_beginRound]
    rfl

theorem signal_expire : session.expire.signal = session.signal := by
  unfold expire
  rw [signal_countFailure, signal_note session (.receiveFailed none) rfl rfl]

theorem signal_acceptFault (fault : Fault) : (session.acceptFault fault).signal = session.signal := by
  unfold acceptFault
  dsimp only
  split
  · rw [signal_countFailure, signal_note session (.receiveFailed fault) rfl rfl]
  · exact signal_note session (.receiveFailed _) rfl rfl

/-- A datagram gives the signal if it is a handshake. -/
theorem signal_dispatch (datagram : Datagram) :
    (session.dispatch datagram).signal
      = if datagram.reply = .handshake then (session.handshakes, true) else session.signal := by
  unfold dispatch
  split
  · next hreply =>
    rw [if_pos hreply]
    rfl
  · next hreply =>
    rw [if_neg (by rw [hreply]; simp)]
    refine signal_notes _ fun event hevent => ?_
    obtain ⟨change, -, hchange⟩ := List.mem_filterMap.1 hevent
    rcases changeEvent?_eq_some hchange with rfl | rfl
    · exact ⟨rfl, rfl⟩
    · exact ⟨rfl, rfl⟩
  · next header hreply =>
    rw [if_neg (by rw [hreply]; simp)]
    exact signal_note session (.ignored header) rfl rfl

/-- So does a payload, and its time is the time of the handshake. -/
theorem signal_acceptPayload (payload : List UInt8) :
    (session.acceptPayload payload).signal
      = if IsHandshake payload then (session.now :: session.handshakes, true) else session.signal := by
  have hcut : IsHandshake (payload.take receiveLimit) ↔ IsHandshake payload :=
    isHandshake_take (by decide)
  unfold acceptPayload
  dsimp only
  generalize payload.take receiveLimit = taken at hcut
  generalize hheard : ({ session.note (.received taken session.peer) with failures := 0 } : Session)
    = heard
  have hnoted : heard.signal = (if IsHandshake payload then session.now :: session.handshakes
      else session.handshakes, session.acknowledged) := by
    rw [← hheard]
    refine Prod.ext ?_ rfl
    refine (handshakes_note session (.received taken session.peer) rfl).trans ?_
    simp only [Event.isHandshake, decide_eq_true_eq, hcut]
  rw [signal_beginRound, signal_dispatch]
  simp only [Datagram.reply_eq_handshake, hcut]
  split
  · next hhandshake =>
    rw [if_pos hhandshake] at hnoted
    rw [show heard.handshakes = session.now :: session.handshakes from congrArg Prod.fst hnoted]
  · next hother =>
    rw [if_neg hother] at hnoted
    exact hnoted

end

/-! ## Taking a handshake in -/

/-- All that a handshake does: the signal is given and the next round begins. The bank is what it was, with
    every slot and the readiness flag. -/
structure TakesHandshake (session after : Session) : Prop where
  handshakes : after.handshakes = session.now :: session.handshakes
  acknowledged : after.acknowledged = true
  bank : after.bank = session.bank
  phase : after.phase = session.openingPhase
  inbox : after.network.inbox = session.network.inbox.tail
  setup : after.setup = session.setup

theorem takesHandshake_wake {session : Session} {deadline : Option Nat} {arrival : Arrival}
    (hphase : session.phase = .receiving deadline) (hhead : session.network.inbox.head? = some arrival)
    (hdue : arrival.DueHandshake session.now) : session.TakesHandshake session.wake := by
  obtain ⟨hdue, payload, hdelivery, hhandshake⟩ := hdue
  have hwake : session.wake = session.dropHead.acceptPayload payload := by
    simp only [wake, hphase, receive, hhead, hdue, if_true, hdelivery, accept]
  have hreply : (Datagram.ofPayload (payload.take receiveLimit)).reply = .handshake := by
    rw [Datagram.reply_eq_handshake, isHandshake_take (by decide)]
    exact hhandshake
  have hsignal := signal_acceptPayload session.dropHead payload
  have hsetup : (session.dropHead.acceptPayload payload).setup = session.setup :=
    setup_accept session.dropHead (.payload payload)
  have hbank : (session.dropHead.acceptPayload payload).bank = session.bank := by
    unfold acceptPayload
    dsimp only
    rw [bank_beginRound, (bank_dispatch _ _).1, if_neg (by rw [hreply]; simp)]
    rfl
  have hopening : (session.dropHead.acceptPayload payload).phase = session.openingPhase := by
    unfold acceptPayload at hsetup ⊢
    dsimp only at hsetup ⊢
    rw [setup_beginRound] at hsetup
    rw [phase_beginRound, openingPhase_congr hsetup]
  have hinbox := inbox_accept session.dropHead (.payload payload)
  rw [hwake]
  rw [if_pos hhandshake] at hsignal
  rw [accept] at hinbox
  generalize session.dropHead.acceptPayload payload = after at hsignal hsetup hbank hopening hinbox ⊢
  exact ⟨congrArg Prod.fst hsignal, congrArg Prod.snd hsignal, hbank, hopening, hinbox, hsetup⟩

/-- A wake-up takes in a handshake, or does not touch the signal. -/
theorem signal_wake (session : Session) :
    session.wake.signal = session.signal ∨ session.TakesHandshake session.wake := by
  unfold wake
  split
  · next deadline hphase =>
    cases hhead : session.network.inbox.head? with
    | none =>
      rw [receive, hhead]
      exact Or.inl (signal_expire session)
    | some arrival =>
      by_cases hdue : arrival.time ≤ session.now
      · cases hdelivery : arrival.delivery with
        | fault fault =>
          simp only [receive, hhead, hdue, if_true, hdelivery, accept]
          exact Or.inl (signal_acceptFault session.dropHead fault)
        | payload payload =>
          by_cases hhandshake : IsHandshake payload
          · have htaken := takesHandshake_wake hphase hhead ⟨hdue, payload, hdelivery, hhandshake⟩
            rw [wake, hphase] at htaken
            exact Or.inr htaken
          · simp only [receive, hhead, hdue, if_true, hdelivery, accept]
            refine Or.inl ((signal_acceptPayload session.dropHead payload).trans ?_)
            rw [if_neg hhandshake]
            rfl
      · simp only [receive, hhead, hdue, if_false]
        exact Or.inl (signal_expire session)
  · exact Or.inl (signal_countFailure session)
  · exact Or.inl (signal_endPulse session)
  · exact Or.inl rfl
  · exact Or.inl rfl

theorem signal_setVibration (session : Session) (index : UInt32) (vibration : Vibration) :
    (session.setVibration index vibration).2.signal = session.signal := by
  unfold setVibration
  split
  · rfl
  · split
    · rfl
    · next slot _ _ _ => exact signal_note session (.vibrationSet slot vibration) rfl rfl

theorem signal_nextKeystroke (session : Session) (selector : Selector) :
    (session.nextKeystroke selector).2.signal = session.signal := by
  refine nextKeystroke_induction (P := fun after => after.signal = session.signal) selector rfl
    (fun _ => rfl) fun slots report => ?_
  exact signal_note _ (.keystroke report) rfl rfl

/-- A move takes in a handshake, or does not touch the signal. -/
theorem Move.signal {session after : Session} (h : Move session after) :
    after.signal = session.signal
      ∨ ∃ time, session.nextWake = some time ∧ after = session.resume time
        ∧ (session.atTime time).TakesHandshake after := by
  cases h with
  | @wake time hwake => exact (signal_wake (session.atTime time)).imp id fun h => ⟨time, hwake, rfl, h⟩
  | pass _ => exact Or.inl rfl
  | deliver delivery => exact Or.inl rfl
  | enable on => exact Or.inl rfl
  | vibrate index vibration => exact Or.inl (signal_setVibration session index vibration)
  | acknowledge peer => exact Or.inl (signal_note session (.acknowledged peer) rfl rfl)
  | giveUp peer limit => exact Or.inl (signal_note session (.unacknowledged peer limit) rfl rfl)
  | tell => exact Or.inl (signal_note session .closing rfl rfl)

theorem Move.acknowledged {session after : Session} (h : Move session after)
    (hheard : session.acknowledged = true) : after.acknowledged = true := by
  rcases h.signal with hsignal | ⟨_, -, -, htaken⟩
  · exact (congrArg Prod.snd hsignal).trans hheard
  · exact htaken.acknowledged

/-! ## The signal at every instant -/

theorem signal_launch (settings : Settings) (peer : SocketAddress) (network : Network) :
    (launch settings peer network).signal = ([], false) := by
  unfold launch
  dsimp only
  rw [signal_beginRound]
  simp [signal, handshakes, entries, Network.note, Event.isStart]

/-- The signal has been given just when a handshake was received, whoever waits for it. -/
theorem Attained.acknowledged_iff {session : Session} (h : Attained session) :
    session.acknowledged = true ↔ session.handshakes ≠ [] := by
  have hkept : ∀ before after : Session, after.signal = before.signal →
      (before.acknowledged = true ↔ before.handshakes ≠ []) →
      (after.acknowledged = true ↔ after.handshakes ≠ []) := by
    intro before after hsignal hbefore
    rwa [show after.acknowledged = before.acknowledged from congrArg Prod.snd hsignal,
      show after.handshakes = before.handshakes from congrArg Prod.fst hsignal]
  induction h with
  | launched settings peer network =>
    have hsignal := signal_launch settings peer network
    rw [show (launch settings peer network).acknowledged = false from congrArg Prod.snd hsignal,
      show (launch settings peer network).handshakes = [] from congrArg Prod.fst hsignal]
    simp
  | moved _ hmove ih =>
    rcases hmove.signal with hsignal | ⟨time, -, -, htaken⟩
    · exact hkept _ _ hsignal ih
    · exact iff_of_true htaken.acknowledged (by rw [htaken.handshakes]; exact List.cons_ne_nil _ _)
  | asked _ selector ih => exact hkept _ _ (signal_nextKeystroke _ selector) ih

/-- What was received stays in the journal, and later handshakes have later times. -/
theorem Leads.handshakes {session after : Session} (h : session.Leads after) :
    session.now ≤ after.now ∧ ∃ fresh, after.handshakes = fresh ++ session.handshakes
      ∧ ∀ time ∈ fresh, session.now ≤ time := by
  refine h.induction (P := fun after => session.now ≤ after.now ∧ ∃ fresh,
    after.handshakes = fresh ++ session.handshakes ∧ ∀ time ∈ fresh, session.now ≤ time) ?_
    ⟨Nat.le_refl _, [], rfl, by simp⟩
  rintro before after hmove ⟨hnow, fresh, hhandshakes, hfresh⟩
  have hlater : before.now ≤ after.now := by
    rcases hmove.wake_or_idle with ⟨time, -, rfl⟩ | hidle
    · rw [now_resume]
      exact Nat.le_max_left _ _
    · exact hidle.now
  refine ⟨Nat.le_trans hnow hlater, ?_⟩
  rcases hmove.signal with hsignal | ⟨time, -, -, htaken⟩
  · exact ⟨fresh, (congrArg Prod.fst hsignal).trans hhandshakes, hfresh⟩
  · refine ⟨(before.atTime time).now :: fresh, ?_, List.forall_mem_cons.2 ⟨?_, hfresh⟩⟩
    · rw [htaken.handshakes, List.cons_append, ← hhandshakes]
      rfl
    · exact Nat.le_trans hnow (Nat.le_max_left _ _)

/-- The first handshake stays the first, and none is received before a time that has passed without. -/
theorem Leads.firstHandshake? {session after : Session} (h : session.Leads after) :
    (∀ time, session.firstHandshake? = some time → after.firstHandshake? = some time)
      ∧ (session.handshakes = [] → ∀ time, after.firstHandshake? = some time → session.now ≤ time) := by
  obtain ⟨-, fresh, hhandshakes, hfresh⟩ := h.handshakes
  rw [Session.firstHandshake?, Session.firstHandshake?, hhandshakes, List.getLast?_append]
  constructor
  · intro time hfirst
    rw [hfirst, Option.some_or]
  · intro hnone time hfirst
    rw [hnone, List.getLast?_nil, Option.none_or] at hfirst
    exact hfresh time (List.mem_of_getLast? hfirst)

/-! ## The wait -/

/-- A wake-up that is due comes before anything else. -/
theorem advanceTo_of_due {session : Session} {wake time : Nat} (hwake : session.nextWake = some wake)
    (hdue : wake ≤ time) : session.advanceTo time = (session.resume wake).advanceTo time := by
  rw [advanceTo, advanceTo, follow_always, hwake]
  dsimp only
  rw [if_pos hdue]

/-- The exchange does the same up to an instant, whatever a caller waits for in the meantime. -/
theorem follow_eq_advanceTo {session : Session} {horizon : Nat} (enough : Session → Bool)
    (h : session.now ≤ horizon) :
    session.follow horizon enough = session.advanceTo (session.follow horizon enough).now := by
  have hsettled := settled_follow enough h
  fun_induction follow horizon enough session with
  | case1 session hnone => exact hsettled.advanceTo_now.symm
  | case2 session time hwake hdue ih =>
    have hresumed : (session.resume time).now ≤ horizon := by
      rw [now_resume]
      exact Nat.max_le.2 ⟨h, hdue.1⟩
    have hlater := (leads_follow horizon enough (session.resume time)).handshakes.1
    rw [advanceTo_of_due hwake (Nat.le_trans (now_resume session time ▸ Nat.le_max_right _ _) hlater)]
    exact ih hresumed hsettled
  | case3 session time hwake hdue => exact hsettled.advanceTo_now.symm

/-- Once the signal is given, only what is due in the same instant is still done. -/
theorem now_follow_of_acknowledged {session : Session} (h : session.acknowledged = true)
    (horizon : Nat) : (session.follow horizon acknowledged).now = session.now := by
  fun_induction follow horizon acknowledged session with
  | case1 session hnone => rfl
  | case2 session time hwake hdue ih =>
    have hdone : time ≤ session.now := hdue.2.resolve_left (by rw [h]; simp)
    rw [ih ((Move.wake hwake).acknowledged h), now_resume, Nat.max_eq_left hdone]
  | case3 session time hwake hdue => rfl

/-- So whoever waits for a handshake goes on in the instant of the first. -/
theorem firstHandshake?_follow {session : Session} (h : session.handshakes = []) (horizon : Nat) :
    ∀ time ∈ (session.follow horizon acknowledged).firstHandshake?,
      time = (session.follow horizon acknowledged).now := by
  fun_induction follow horizon acknowledged session with
  | case1 session hnone => simp [Session.firstHandshake?, h]
  | case2 session time hwake hdue ih =>
    rcases (Move.wake hwake).signal with hsignal | ⟨_, hnext, -, htaken⟩
    · exact ih ((congrArg Prod.fst hsignal).trans h)
    · obtain rfl := Option.some.inj (hwake.symm.trans hnext)
      have hfirst : (session.resume time).firstHandshake? = some (session.resume time).now := by
        rw [Session.firstHandshake?, htaken.handshakes, show (session.atTime time).handshakes = []
          from h, List.getLast?_singleton, now_resume]
        rfl
      have hsame := (leads_follow horizon acknowledged (session.resume time)).firstHandshake?.1 _ hfirst
      intro first hmem
      rw [hsame, Option.mem_some_iff] at hmem
      rw [now_follow_of_acknowledged htaken.acknowledged, hmem]
  | case3 session time hwake hdue => simp [Session.firstHandshake?, h]

/-- The instant at which a wait is over at the latest. -/
def waitLimit (session : Session) : Nat := session.now + session.settings.handshakeWait

/-- The session when its caller has waited. -/
def waited (session : Session) : Session := session.follow session.waitLimit acknowledged

section

variable {session : Session}

theorem now_le_waitLimit (session : Session) : session.now ≤ session.waitLimit := Nat.le_add_right _ _

theorem leads_waited (session : Session) : session.Leads session.waited := leads_follow _ _ session

theorem Attained.waited (h : Attained session) : Attained session.waited :=
  (leads_waited session).induction (fun _ _ hmove hbefore => hbefore.moved hmove) h

theorem now_waited_le (session : Session) : session.waited.now ≤ session.waitLimit :=
  now_follow_le acknowledged session.now_le_waitLimit

theorem waited_eq_advanceTo (session : Session) :
    session.waited = session.advanceTo session.waited.now :=
  follow_eq_advanceTo acknowledged session.now_le_waitLimit

/-- Without a signal nothing more is due up to the limit. -/
theorem atTime_waited (h : session.waited.acknowledged = false) :
    session.waited.atTime session.waitLimit = session.advanceTo session.waitLimit := by
  have hlater : ∀ wake ∈ session.waited.nextWake, session.waitLimit < wake :=
    lt_nextWake_of_not_enough session.waitLimit acknowledged session h
  rw [← advanceTo_of_later hlater, waited_eq_advanceTo,
    advanceTo_advanceTo session session.now_waited_le]

/-- With one the wait is over at the first handshake. -/
theorem Attained.firstHandshake?_waited (h : Attained session) (hnone : session.handshakes = [])
    (hheard : session.waited.acknowledged = true) :
    session.waited.firstHandshake? = some session.waited.now := by
  have hlast : session.waited.firstHandshake? = some (session.waited.handshakes.getLast _) :=
    List.getLast?_eq_some_getLast (h.waited.acknowledged_iff.1 hheard)
  rw [hlast, firstHandshake?_follow hnone _ _ hlast]
  rfl

theorem awaitHandshake_of_heard (h : session.waited.acknowledged = true) :
    session.awaitHandshake = session.waited.note (.acknowledged session.peer) :=
  if_pos h

theorem awaitHandshake_of_unheard (h : session.waited.acknowledged = false) :
    session.awaitHandshake = (session.advanceTo session.waitLimit).note
      (.unacknowledged session.peer session.settings.handshakeWait) := by
  rw [← atTime_waited h]
  exact if_neg (Bool.eq_false_iff.1 h)

theorem now_note (session : Session) (event : Event) : (session.note event).now = session.now := rfl

/-- When a wait is over and what the caller is told then can be read off the exchange as it goes on
    without a caller, to the limit or beyond. -/
theorem Attained.awaitHandshake_eq (h : Attained session) (hnone : session.handshakes = []) :
    (∀ horizon, session.waitLimit ≤ horizon → session.awaitHandshake.now
        = (session.advanceTo horizon).firstHandshake?.elim session.waitLimit (min session.waitLimit))
      ∧ session.awaitHandshake = (session.advanceTo session.awaitHandshake.now).note
        (if (session.advanceTo session.awaitHandshake.now).firstHandshake?.isSome
          then .acknowledged session.peer
          else .unacknowledged session.peer session.settings.handshakeWait) := by
  cases hheard : session.waited.acknowledged with
  | true =>
    have hfirst := h.firstHandshake?_waited hnone hheard
    rw [awaitHandshake_of_heard hheard, now_note, ← waited_eq_advanceTo, hfirst]
    refine ⟨fun horizon hhorizon => ?_, rfl⟩
    -- The exchange goes on from the handshake, which stays the first.
    rw [← advanceTo_advanceTo session (Nat.le_trans session.now_waited_le hhorizon),
      ← waited_eq_advanceTo, (leads_advanceTo session.waited horizon).firstHandshake?.1 _ hfirst]
    exact (Nat.min_eq_right session.now_waited_le).symm
  | false =>
    have hnow : (session.advanceTo session.waitLimit).now = session.waitLimit :=
      now_advanceTo session.now_le_waitLimit
    have hempty : (session.advanceTo session.waitLimit).handshakes = [] := by
      rw [← atTime_waited hheard]
      refine Classical.byContradiction fun hsome => ?_
      rw [h.waited.acknowledged_iff.2 hsome] at hheard
      cases hheard
    rw [awaitHandshake_of_unheard hheard, now_note, hnow, Session.firstHandshake?, hempty]
    refine ⟨fun horizon hhorizon => ?_, rfl⟩
    -- What is received behind the limit comes too late.
    have hlate := (leads_advanceTo (session.advanceTo session.waitLimit) horizon).firstHandshake?.2 hempty
    rw [hnow, advanceTo_advanceTo session hhorizon] at hlate
    cases hfirst : (session.advanceTo horizon).firstHandshake? with
    | none => rfl
    | some time => exact (Nat.min_eq_left (hlate time hfirst)).symm

/-- If the signal was given before, nobody has to wait for it. -/
theorem awaitHandshake_of_acknowledged (h : session.acknowledged = true) :
    session.awaitHandshake = (session.advanceTo session.now).note (.acknowledged session.peer) := by
  have hheard : session.waited.acknowledged = true :=
    (leads_waited session).induction (fun _ _ hmove hbefore => hmove.acknowledged hbefore) h
  have hnow : session.waited.now = session.now := now_follow_of_acknowledged h _
  rw [awaitHandshake_of_heard hheard, waited_eq_advanceTo, hnow]

end

/-! ## Any number of handshakes -/

/-- So many handshakes were taken in at one instant. The exchange receives again, with the rest of the
    inbox before it, and goes on from there; the bank is what it was. -/
structure TakesHandshakes (session : Session) (n : Nat) (rest : List Arrival) (after : Session) :
    Prop where
  leads : session.Leads after
  now : after.now = session.now
  bank : after.bank = session.bank
  inbox : after.network.inbox = rest
  receiving : ∃ deadline, after.phase = .receiving deadline
  handshakes : after.handshakes = List.replicate n session.now ++ session.handshakes
  goesOn : ∀ time, session.now ≤ time → session.advanceTo time = after.advanceTo time

/-- What is due is received at once. -/
theorem resume_of_due {session : Session} {deadline : Option Nat} {arrival : Arrival}
    (hphase : session.phase = .receiving deadline) (hhead : session.network.inbox.head? = some arrival)
    (hdue : arrival.time ≤ session.now) :
    ∃ wake, session.nextWake = some wake ∧ wake ≤ session.now ∧ session.resume wake = session.wake := by
  have hsame : ∀ wake, wake ≤ session.now → session.resume wake = session.wake := by
    intro wake hwake
    have hclock : max session.network.now wake = session.network.now := Nat.max_eq_left hwake
    simp only [resume, atTime, hclock]
  cases deadline with
  | none => exact ⟨arrival.time, by simp only [nextWake, hphase, hhead], hdue, hsame _ hdue⟩
  | some deadline =>
    have hwake : min arrival.time deadline ≤ session.now := Nat.le_trans (Nat.min_le_left _ _) hdue
    exact ⟨min arrival.time deadline, by simp only [nextWake, hphase, hhead], hwake, hsame _ hwake⟩

theorem exists_takesHandshakes {session : Session} {deadline : Option Nat} {due rest : List Arrival}
    (hphase : session.phase = .receiving deadline) (hopen : session.closing = false)
    (hinbox : session.network.inbox = due ++ rest)
    (hdue : ∀ arrival ∈ due, arrival.DueHandshake session.now) :
    ∃ after, session.TakesHandshakes due.length rest after := by
  induction due generalizing session deadline with
  | nil => exact ⟨session, .refl, rfl, rfl, hinbox, ⟨deadline, hphase⟩, rfl, fun _ _ => rfl⟩
  | cons arrival due ih =>
    obtain ⟨hfirst, hothers⟩ := List.forall_mem_cons.1 hdue
    have hhead : session.network.inbox.head? = some arrival := by rw [hinbox]; rfl
    obtain ⟨wake, hwake, hwakeDue, hresume⟩ := resume_of_due hphase hhead hfirst.due
    have htaken := takesHandshake_wake hphase hhead hfirst
    have hnow : session.wake.now = session.now := congrArg Setup.now htaken.setup
    have hreceiving : session.wake.phase = session.receivePhase := by
      rw [htaken.phase, openingPhase, if_neg (by simp [hopen])]
    obtain ⟨after, hafter⟩ := ih hreceiving ((congrArg Setup.closing htaken.setup).trans hopen)
      (by rw [htaken.inbox, hinbox]; rfl) (by rw [hnow]; exact hothers)
    refine ⟨after, ?_, hafter.now.trans hnow, hafter.bank.trans htaken.bank, hafter.inbox,
      hafter.receiving, ?_, fun time htime => ?_⟩
    · exact .head (hresume ▸ .wake hwake) hafter.leads
    · rw [hafter.handshakes, htaken.handshakes, hnow, List.length_cons, List.replicate_succ',
        List.append_assoc]
      rfl
    · rw [advanceTo_of_due hwake (Nat.le_trans hwakeDue htime), hresume,
        hafter.goesOn time (hnow ▸ htime)]

/-- What handshakes can do to a session, at whatever instant they come. -/
structure Unharmed (session : Session) : Prop where
  /-- The signal has been given just when a handshake was received, and no other datagram gives it. -/
  signalled : session.acknowledged = true ↔ session.handshakes ≠ []
  /-- It is not lost, -/
  kept : session.acknowledged = true → ∀ after, session.Leads after → after.acknowledged = true
  /-- and whoever waits for it later is told at once. -/
  told : session.acknowledged = true →
    session.awaitHandshake = (session.advanceTo session.now).note (.acknowledged session.peer)
  /-- Where a handshake is taken in, every slot and the readiness flag stay as they are. -/
  bank : ∀ after, Move session after → after.handshakes ≠ session.handshakes →
    after.bank = session.bank
  /-- As many handshakes as are due are taken in at once, one after the other. -/
  taken : ∀ deadline due rest, session.phase = .receiving deadline → session.closing = false →
    session.network.inbox = due ++ rest → (∀ arrival ∈ due, arrival.DueHandshake session.now) →
    ∃ after, session.TakesHandshakes due.length rest after
  /-- Only closing ends the exchange. -/
  goesOn : session.closing = false → session.check = .ok ()

theorem Attained.unharmed {session : Session} (h : Attained session) : session.Unharmed where
  signalled := h.acknowledged_iff
  kept hheard _ hleads :=
    hleads.induction (fun _ _ hmove hbefore => hmove.acknowledged hbefore) hheard
  told := awaitHandshake_of_acknowledged
  bank after hmove hnew := by
    rcases hmove.signal with hsignal | ⟨_, -, -, htaken⟩
    · exact absurd (congrArg Prod.fst hsignal) hnew
    · exact htaken.bank
  taken _ _ _ hphase hopen hinbox hdue := exists_takesHandshakes hphase hopen hinbox hdue
  goesOn := h.check_eq_ok

/-! ## The start -/

theorem now_knock (settings : Settings) (peer : SocketAddress) (network : Network) :
    (knock settings peer network).now = network.now := by
  unfold knock
  dsimp only
  split <;> rfl

/-- A start that does not fail is over at the first instant at which the exchange receives a handshake, or
    when it has waited as long as the settings say, whichever is earlier. When that handshake is received
    is found by following the exchange without a caller, however far; the caller is told of it just when
    it was received by then, and has the exchange as it stands at that instant. No handshake, before,
    during or behind the wait of any session, does more than give the signal. -/
theorem wait_ends_at_handshake {settings : Settings} {peer : SocketAddress} {network : Network}
    (hbind : network.obstacles.bind = none) (hspawn : network.obstacles.spawn = none) :
    let first := launch settings peer (knock settings peer network)
    let opened := openWith settings peer network
    let limit := network.now + settings.handshakeWait
    (∀ horizon, limit ≤ horizon →
        opened.now = (first.advanceTo horizon).firstHandshake?.elim limit (min limit))
      ∧ opened = (first.advanceTo opened.now).note
        (if (first.advanceTo opened.now).firstHandshake?.isSome then .acknowledged peer
          else .unacknowledged peer settings.handshakeWait)
      ∧ ∀ session, Attained session → session.Unharmed := by
  intro first opened limit
  have hsetup := setup_launch settings peer (knock settings peer network)
  have hlimit : first.waitLimit = limit := by
    rw [waitLimit, show first.now = (knock settings peer network).now from congrArg Setup.now hsetup,
      show first.settings = settings from congrArg Setup.settings hsetup, now_knock]
  have hopened : opened = first.awaitHandshake := openWith_of_unobstructed hbind hspawn
  obtain ⟨hnow, htold⟩ := (Attained.launched settings peer (knock settings peer network)).awaitHandshake_eq
    (congrArg Prod.fst (signal_launch settings peer (knock settings peer network)))
  rw [show (launch settings peer (knock settings peer network)).peer = peer from
      congrArg Setup.peer hsetup,
    show (launch settings peer (knock settings peer network)).settings = settings from
      congrArg Setup.settings hsetup] at htold
  rw [← hlimit, hopened]
  exact ⟨hnow, htold, fun _ => Attained.unharmed⟩

/-- A session whose server is absent at first, and answers the probe while the exchange waits after the
    fault. -/
def sleepySession : Session :=
  openWith { receiveTimeoutMs := 500 } (.v4 IPv4.localhost 0)
    { inbox := [⟨0, .fault .connectionReset⟩, ⟨10, .payload [3]⟩, ⟨20, .payload [1]⟩, ⟨20, .payload [1]⟩] }

/-- Both answers lie in the inbox until that wait is over, behind a datagram of no kind, and with the first
    of them the start is over, long before its limit. -/
theorem wait_ends_in_sleepySession :
    sleepySession.now = 500 ∧ sleepySession.handshakes = [500, 500]
      ∧ sleepySession.acknowledged = true := by
  obtain ⟨hnow, htold, hunharmed⟩ := @wait_ends_at_handshake { receiveTimeoutMs := 500 }
    (.v4 IPv4.localhost 0) { inbox := [⟨0, .fault .connectionReset⟩, ⟨10, .payload [3]⟩,
      ⟨20, .payload [1]⟩, ⟨20, .payload [1]⟩] } rfl rfl
  have hhandshakes : sleepySession.handshakes = [500, 500] := by decide +kernel
  have hattained : Attained sleepySession := (Reachable.opened rfl rfl).attained
  refine ⟨(hnow 2000 (by decide)).trans (by decide +kernel), hhandshakes, ?_⟩
  exact (hunharmed sleepySession hattained).signalled.2 (by rw [hhandshakes]; simp)

end Session

end PadLink
