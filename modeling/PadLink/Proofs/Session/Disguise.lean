import PadLink.Proofs.Session.Journal

set_option autoImplicit false

/-! # What the exchange does not notice

A `Disguise` changes the slots of a bank and the network around a session in a way that the exchange
does not notice: it leaves alone what the server decides, the motors, the clock and the inbox, and it
commutes with everything that is written. Then it commutes with whatever the session does, from the
beginning of a round up to the questions that wait and to closing, and two sessions that look alike in a
disguise go on looking alike (`on_answer`, `on_close`).

Three kinds of requests are left to each disguise: the enabled flags, the report on a slot and the
keystrokes read or write what it may have changed. -/

namespace PadLink

/-- Whether a keystroke was reported. -/
def Event.isReport : Event → Bool
  | keystroke _ => true
  | _ => false

/-- Whether the request has nothing to do with enabled flags and keystrokes. -/
def Request.isPlain : Request → Bool
  | enable _ | keystroke _ | status _ => false
  | _ => true

/-- Whether the step has nothing to do with enabled flags and keystrokes. -/
def Step.isPlain : Step → Bool
  | .push _ | .advance _ => true
  | .request made => made.isPlain

namespace Bank

/-- The bank with every slot changed in its own way. -/
def mapIndexed (bank : Bank) (f : SlotIndex → Slot → Slot) : Bank :=
  { bank with slots := Vector.ofFn fun index => f index (bank.slot index) }

@[simp] theorem slot_mapIndexed (bank : Bank) (f : SlotIndex → Slot → Slot) (index : SlotIndex) :
    (bank.mapIndexed f).slot index = f index (bank.slot index) := by
  simp [slot, mapIndexed]

end Bank

/-- A change of slots and network that the exchange does not notice. -/
structure Disguise where
  slot : SlotIndex → Slot → Slot
  network : Network → Network
  told : ∀ index s, (slot index s).told = s.told
  vibration : ∀ index s, (slot index s).vibration = s.vibration
  vibrate : ∀ index s vibration,
    slot index { s with vibration := vibration } = { slot index s with vibration := vibration }
  apply : ∀ index s block, (slot index s).apply block = ((s.apply block).1, slot index (s.apply block).2)
  vacate : ∀ index s, (slot index s).vacate = slot index s.vacate
  now : ∀ net, (network net).now = net.now
  inbox : ∀ net, (network net).inbox = net.inbox
  stopAt : ∀ net, (network net).stopAt = net.stopAt
  clock : ∀ net time, network { net with now := time } = { network net with now := time }
  fill : ∀ net inbox, network { net with inbox := inbox } = { network net with inbox := inbox }
  note : ∀ net (event : Event), event.isSend = false → event.isReport = false →
    network (net.note event) = (network net).note event
  poll : ∀ net peer vibrations,
    network (net.transmit peer (.poll vibrations) (.pollFailed peer (.poll vibrations)))
      = (network net).transmit peer (.poll vibrations) (.pollFailed peer (.poll vibrations))

namespace Disguise

open Session (follow resume wake lookForReady changeEvent?)

variable (d : Disguise)

/-! ## The bank -/

/-- The bank in disguise. -/
def bank (bank : Bank) : Bank := bank.mapIndexed d.slot

theorem slot_bank (bank : Bank) (index : SlotIndex) :
    (d.bank bank).slot index = d.slot index (bank.slot index) :=
  bank.slot_mapIndexed d.slot index

theorem connected_bank (bank : Bank) (index : SlotIndex) :
    ((d.bank bank).slot index).connected = (bank.slot index).connected := by
  rw [slot_bank]
  exact congrArg Prod.fst (d.told index (bank.slot index))

theorem vibrations_bank (bank : Bank) : (d.bank bank).vibrations = bank.vibrations :=
  Bank.vibrations_congr fun index => by rw [slot_bank, d.vibration]

theorem bank_setVibration (bank : Bank) (index : SlotIndex) (vibration : Vibration) :
    d.bank (bank.setVibration index vibration) = (d.bank bank).setVibration index vibration := by
  refine Bank.ext (fun other => ?_) rfl
  simp only [slot_bank, Bank.setVibration, Bank.slot_modify]
  split
  · next h => rw [d.vibrate, h]
  · rfl

theorem bank_applyReply (bank : Bank) (datagram : Datagram) :
    (d.bank bank).applyReply datagram
      = ((bank.applyReply datagram).1, d.bank (bank.applyReply datagram).2) := by
  refine Prod.ext ?_ (Bank.ext (fun index => ?_) rfl)
  · simp only [Bank.applyReply, Bank.fst_applyBlocks _ SlotIndex.nodup_all, slot_bank, d.apply]
  · rw [Bank.slot_applyReply, slot_bank, slot_bank, Bank.slot_applyReply, d.apply]

theorem bank_disconnectAll (bank : Bank) :
    (d.bank bank).disconnectAll = (bank.disconnectAll.1, d.bank bank.disconnectAll.2) := by
  refine Prod.ext ?_ (Bank.ext (fun index => ?_) ?_)
  · simp only [Bank.disconnectAll_eq, connected_bank]
  · simp only [Bank.slot_disconnectAll, slot_bank, d.vacate]
  · exact Bank.ready_disconnectAll _

/-! ## The exchange -/

/-- The session in disguise. -/
def on (session : Session) : Session :=
  { session with bank := d.bank session.bank, network := d.network session.network }

variable (session : Session)

theorem now_on : (d.on session).now = session.now := d.now session.network

theorem inbox_on : (d.on session).network.inbox = session.network.inbox := d.inbox session.network

theorem nextWake_on : (d.on session).nextWake = session.nextWake := by
  have hphase : (d.on session).phase = session.phase := rfl
  rw [Session.nextWake, Session.nextWake, inbox_on, hphase]

theorem on_note {event : Event} (hsend : event.isSend = false) (hreport : event.isReport = false) :
    d.on (session.note event) = (d.on session).note event := by
  rw [Session.note, on]
  dsimp only
  rw [d.note _ _ hsend hreport]
  rfl

theorem on_notes {events : List Event}
    (h : ∀ event ∈ events, event.isSend = false ∧ event.isReport = false) :
    d.on (events.foldl Session.note session) = events.foldl Session.note (d.on session) := by
  induction events generalizing session with
  | nil => rfl
  | cons event rest ih =>
    obtain ⟨hsend, hreport⟩ := h event List.mem_cons_self
    rw [List.foldl_cons, ih _ fun other hother => h other (List.mem_cons_of_mem _ hother),
      on_note d session hsend hreport]
    rfl

theorem on_atTime (time : Nat) : d.on (session.atTime time) = (d.on session).atTime time := by
  rw [Session.atTime, Session.atTime, on]
  dsimp only
  rw [d.clock, ← d.now]
  rfl

theorem on_dropHead : d.on session.dropHead = (d.on session).dropHead := by
  rw [Session.dropHead, Session.dropHead, inbox_on, on]
  dsimp only
  rw [d.fill]
  rfl

theorem on_deliver (delivery : Delivery) :
    d.on { session with network := session.network.deliver delivery }
      = { d.on session with network := (d.on session).network.deliver delivery } := by
  have hinsert : Arrival.insert ⟨session.network.now, delivery⟩ session.network.inbox
      = Arrival.insert ⟨(d.network session.network).now, delivery⟩
        (d.network session.network).inbox := by
    rw [d.inbox, d.now]
  have hnetwork : d.network (session.network.deliver delivery)
      = (d.network session.network).deliver delivery :=
    (d.fill _ _).trans (congrArg (fun inbox => { d.network session.network with inbox := inbox })
      hinsert)
  exact congrArg (fun network => { d.on session with network := network }) hnetwork

theorem on_sendPoll : d.on session.sendPoll = (d.on session).sendPoll := by
  have hvibrations : (d.on session).bank.vibrations = session.bank.vibrations :=
    vibrations_bank d session.bank
  unfold Session.sendPoll
  rw [hvibrations, on]
  dsimp only
  rw [d.poll]
  rfl

theorem on_beginRound : d.on session.beginRound = (d.on session).beginRound := by
  have hclosing : (d.on session).closing = session.closing := rfl
  unfold Session.beginRound
  rw [hclosing]
  split
  · rw [← on_note d session rfl rfl]
    rfl
  · have hphase : (d.on session).receivePhase = session.receivePhase := by
      rw [Session.receivePhase, Session.receivePhase, now_on]
      rfl
    rw [← on_sendPoll, hphase]
    rfl

theorem on_endPulse : d.on session.endPulse = (d.on session).endPulse :=
  on_beginRound d { session with bank := session.bank.setReady false }

theorem on_loseServer : d.on session.loseServer = (d.on session).loseServer := by
  have hlost : (d.on session).bank.disconnectAll
      = (session.bank.disconnectAll.1, d.bank session.bank.disconnectAll.2) :=
    bank_disconnectAll d session.bank
  have hattempts : (d.on session).outageAttempts = session.outageAttempts := rfl
  have hpeer : (d.on session).peer = session.peer := rfl
  unfold Session.loseServer
  rw [hlost, hattempts, hpeer]
  dsimp only
  rw [← on_note d session rfl rfl]
  rfl

theorem on_declareOutage : d.on session.declareOutage = (d.on session).declareOutage := by
  have hsettings : (d.on session).settings = session.settings := rfl
  unfold Session.declareOutage
  rw [hsettings, now_on, ← on_loseServer]
  split
  · exact on_endPulse d _
  · rfl

theorem on_countFailure : d.on session.countFailure = (d.on session).countFailure := by
  have hsettings : (d.on session).settings = session.settings := rfl
  have hfailures : (d.on session).failures = session.failures := rfl
  unfold Session.countFailure
  rw [hsettings, hfailures]
  dsimp only
  split
  · exact on_declareOutage d session
  · exact on_beginRound d _

theorem on_expire : d.on session.expire = (d.on session).expire := by
  rw [Session.expire, Session.expire, on_countFailure, on_note d session rfl rfl]

theorem on_dispatch (datagram : Datagram) :
    d.on (session.dispatch datagram) = (d.on session).dispatch datagram := by
  have hreply : (d.on session).bank.applyReply datagram
      = ((session.bank.applyReply datagram).1, d.bank (session.bank.applyReply datagram).2) :=
    bank_applyReply d session.bank datagram
  unfold Session.dispatch
  rw [hreply]
  split
  · rfl
  · refine on_notes d { session with bank := (session.bank.applyReply datagram).2 } ?_
    intro event hevent
    obtain ⟨change, -, hchange⟩ := List.mem_filterMap.1 hevent
    rcases Session.changeEvent?_eq_some hchange with rfl | rfl
    · exact ⟨rfl, rfl⟩
    · exact ⟨rfl, rfl⟩
  · exact on_note d session rfl rfl

theorem on_accept (delivery : Delivery) :
    d.on (session.accept delivery) = (d.on session).accept delivery := by
  cases delivery with
  | payload bytes =>
    have hpeer : (d.on session).peer = session.peer := rfl
    simp only [Session.accept, Session.acceptPayload]
    rw [on_beginRound, on_dispatch, hpeer, ← on_note d session rfl rfl]
    rfl
  | fault fault =>
    have hsettings : (d.on session).settings = session.settings := rfl
    simp only [Session.accept, Session.acceptFault]
    rw [hsettings, now_on, ← on_note d session rfl rfl]
    split
    · exact on_countFailure d _
    · rfl

theorem on_receive : d.on session.receive = (d.on session).receive := by
  unfold Session.receive
  rw [inbox_on, now_on]
  split
  · split
    · rw [on_accept, on_dropHead]
    · exact on_expire d session
  · exact on_expire d session

theorem on_wake : d.on session.wake = (d.on session).wake := by
  have hphase : (d.on session).phase = session.phase := rfl
  unfold Session.wake
  rw [hphase]
  split
  · exact on_receive d session
  · exact on_countFailure d session
  · exact on_endPulse d session
  · rfl
  · rfl

theorem on_resume (time : Nat) : d.on (session.resume time) = (d.on session).resume time := by
  rw [Session.resume, Session.resume, on_wake, on_atTime]

/-! ## Time -/

theorem on_follow (horizon : Nat) {enough : Session → Bool}
    (h : ∀ other, enough (d.on other) = enough other) :
    d.on (session.follow horizon enough) = (d.on session).follow horizon enough := by
  fun_induction Session.follow horizon enough session with
  | case1 session hnone =>
    rw [Session.follow]
    split
    · rfl
    · next time hwake =>
      rw [nextWake_on, hnone] at hwake
      cases hwake
  | case2 session time hwake hdue ih =>
    rw [ih, on_resume, Session.follow.eq_def horizon enough (d.on session)]
    split
    · next hnone =>
      rw [nextWake_on, hwake] at hnone
      cases hnone
    · next other hother =>
      rw [nextWake_on, hwake] at hother
      obtain rfl := Option.some.inj hother
      rw [dif_pos ⟨hdue.1, by rw [h, now_on]; exact hdue.2⟩]
  | case3 session time hwake hdue =>
    rw [Session.follow]
    split
    · rfl
    · next other hother =>
      rw [nextWake_on, hwake] at hother
      obtain rfl := Option.some.inj hother
      rw [dif_neg]
      rw [h, now_on]
      exact hdue

theorem on_advanceTo (time : Nat) :
    d.on (session.advanceTo time) = (d.on session).advanceTo time := by
  rw [Session.advanceTo, Session.advanceTo, on_atTime, on_follow d session time fun _ => rfl]

theorem on_advance (ms : Nat) : d.on (session.advance ms) = (d.on session).advance ms := by
  rw [Session.advance, Session.advance, on_advanceTo, now_on]

theorem on_push (delivery : Delivery) :
    d.on (session.push delivery) = (d.on session).push delivery := by
  rw [Session.push, Session.push, on_advance, on_deliver]

theorem on_awaitHandshake : d.on session.awaitHandshake = (d.on session).awaitHandshake := by
  have hsettings : (d.on session).settings = session.settings := rfl
  have hpeer : (d.on session).peer = session.peer := rfl
  have hfollow : d.on (session.follow (session.now + session.settings.handshakeWait)
        Session.acknowledged)
      = (d.on session).follow (session.now + session.settings.handshakeWait)
        Session.acknowledged := on_follow d session _ fun _ => rfl
  unfold Session.awaitHandshake
  dsimp only
  rw [hsettings, hpeer, now_on, ← hfollow]
  generalize session.follow (session.now + session.settings.handshakeWait) Session.acknowledged
    = waited
  have hheard : (d.on waited).acknowledged = waited.acknowledged := rfl
  rw [hheard]
  split
  · exact on_note d waited rfl rfl
  · rw [← on_atTime, ← on_note d _ rfl rfl]

/-! ## Questions -/

/-- What comes out, with the session in disguise. -/
def outcome {α : Type} (found : Option (α × Session)) : Option (α × Session) :=
  found.map fun found => (found.1, d.on found.2)

theorem outcome_map {α β : Type} (found : Option (α × Session)) (f : α → β) :
    d.outcome (found.map fun found => (f found.1, found.2))
      = (d.outcome found).map fun found => (f found.1, found.2) := by
  cases found <;> rfl

theorem on_sleep (ms : Nat) : (session.sleep ms).map d.on = (d.on session).sleep ms := by
  unfold Session.sleep
  dsimp only
  have hstop : (d.on (session.advance ms)).network.stopAt = (session.advance ms).network.stopAt :=
    d.stopAt _
  rw [← on_advance, hstop, now_on]
  split <;> rfl

theorem on_lookForReady (since looks : Nat) :
    d.outcome (lookForReady since looks session) = lookForReady since looks (d.on session) := by
  induction looks generalizing session with
  | zero => rfl
  | succ looks ih =>
    have hcheck : (d.on session).check = session.check := rfl
    have hready : (d.on session).bank.ready = session.bank.ready := rfl
    have hsettings : (d.on session).settings = session.settings := rfl
    rw [lookForReady, lookForReady, hcheck, hready, hsettings, now_on]
    cases session.check with
    | error error => rfl
    | ok =>
      dsimp only
      split
      · rfl
      · split
        · rfl
        · rw [← on_sleep]
          cases session.sleep session.settings.readyPoll with
          | none => rfl
          | some rested => exact ih rested

theorem on_waitReady : d.outcome session.waitReady = (d.on session).waitReady := by
  have hpatience : (d.on session).patience = session.patience := by
    unfold Session.patience Session.settledBy
    rw [inbox_on, now_on]
    rfl
  rw [Session.waitReady, Session.waitReady, on_lookForReady, hpatience, now_on]

theorem on_askSlot {α : Type} (index : UInt32) {ask : Slot → Except Error α}
    (h : ∀ slot other : Slot, slot.told = other.told → ask slot = ask other) :
    d.outcome (session.askSlot index ask) = (d.on session).askSlot index ask := by
  unfold Session.askSlot
  cases SlotIndex.check index with
  | error error => rfl
  | ok slot =>
    dsimp only
    rw [← on_waitReady]
    rcases session.waitReady with _ | ⟨_ | found, after⟩
    · rfl
    · rfl
    · have hconnected : ((d.on after).bank.slot slot).connected = (after.bank.slot slot).connected :=
        connected_bank d after.bank slot
      have hask : ask ((d.on after).bank.slot slot) = ask (after.bank.slot slot) := by
        refine h _ _ ?_
        show ((d.bank after.bank).slot slot).told = _
        rw [slot_bank, d.told]
      simp only [outcome, Option.map_some, hconnected, hask]
      split <;> rfl

theorem on_setVibration (index : UInt32) (vibration : Vibration) :
    (d.on session).setVibration index vibration
      = ((session.setVibration index vibration).1, d.on (session.setVibration index vibration).2) := by
  have hcheck : (d.on session).check = session.check := rfl
  unfold Session.setVibration
  rw [hcheck]
  cases SlotIndex.check index with
  | error error => rfl
  | ok slot =>
    cases session.check with
    | error error => rfl
    | ok =>
      have hset : d.on { session with bank := session.bank.setVibration slot vibration }
          = { d.on session with bank := (d.on session).bank.setVibration slot vibration } :=
        congrArg (fun bank => { d.on session with bank := bank })
          (bank_setVibration d session.bank slot vibration)
      dsimp only
      rw [on_note d _ rfl rfl, hset]

theorem refuse_on (index : UInt32) (feature : String) :
    (d.on session).refuse index feature = session.refuse index feature := by
  have hconnected : ∀ slot, ((d.on session).bank.slot slot).connected
      = (session.bank.slot slot).connected := connected_bank d session.bank
  unfold Session.refuse
  simp only [hconnected]

/-- Requests that neither read nor write what a disguise may change are answered alike. -/
theorem on_answer {request : Request} (h : request.isPlain = true) :
    d.outcome (session.answer request) = (d.on session).answer request := by
  have hstate : ∀ index, d.outcome (session.extendedState index)
      = (d.on session).extendedState index := fun index =>
    on_askSlot d session index fun slot other htold =>
      congrArg (fun told => Except.ok told.2.2) htold
  have hcapabilities : ∀ index flags, d.outcome (session.extendedCapabilities index flags)
      = (d.on session).extendedCapabilities index flags := fun index flags =>
    on_askSlot d session index fun slot other htold => by
      have hsame : slot.capabilities = other.capabilities := congrArg (fun told => told.2.1) htold
      rw [hsame]
  cases request with
  | enable on => cases h
  | keystroke selector => cases h
  | status index => cases h
  | setVibration index vibration =>
    simp only [Session.answer, on_setVibration]
    rfl
  | state index =>
    simp only [Session.answer, Session.state, ← hstate]
    rw [← outcome_map, ← outcome_map]
  | extendedState index =>
    simp only [Session.answer, ← hstate]
    rw [← outcome_map]
  | capabilities index flags =>
    simp only [Session.answer, Session.capabilities, ← hcapabilities]
    rw [← outcome_map, ← outcome_map]
  | extendedCapabilities index flags =>
    simp only [Session.answer, ← hcapabilities]
    rw [← outcome_map]
  | battery index kind =>
    simp only [Session.answer, Session.battery, refuse_on]
    rfl
  | audioDevices index =>
    simp only [Session.answer, Session.audioDevices, refuse_on]
    rfl
  | peer => rfl

theorem on_step {step : Step} (h : step.isPlain = true) :
    d.outcome (session.step step) = (d.on session).step step := by
  cases step with
  | push delivery =>
    rw [Session.step, Session.step, ← on_push]
    rfl
  | advance ms =>
    rw [Session.step, Session.step, ← on_advance]
    rfl
  | request request => exact on_answer d session h

/-! ## The end -/

theorem on_finishWait : d.on session.finishWait = (d.on session).finishWait := by
  unfold Session.finishWait
  rw [nextWake_on]
  split
  · exact on_resume d session _
  · rfl

theorem on_unblock : d.on session.unblock = (d.on session).unblock := by
  have hphase : (d.on session).phase = session.phase := rfl
  unfold Session.unblock
  rw [nextWake_on, hphase]
  split
  · exact on_deliver d session _
  · rfl

theorem on_close : d.on session.close = (d.on session).close := by
  have hphase : (d.on session).phase = session.phase := rfl
  unfold Session.close
  rw [hphase]
  split
  · rfl
  · dsimp only
    rw [on_finishWait, on_finishWait, on_finishWait, on_unblock,
      ← on_note d session rfl rfl]
    rfl

end Disguise

end PadLink
