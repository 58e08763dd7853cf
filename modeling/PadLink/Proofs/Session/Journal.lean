import PadLink.Proofs.Session.Attained

set_option autoImplicit false

/-! # What is written into the journal

All that a session does to its network is to write events into the journal, to send polls, to take
deliveries out of the inbox and to let time pass, so a property of networks that these keep is kept by
the whole exchange (`Session.Keeps`).

Three kinds of events are `news`, on which later facts rest: a state reply, a controller that comes,
and a command to the motors. `Writes` says which of them the exchange leaves in the journal, beside entries
that are none and polls with the motor speeds of that instant; a command is kept apart (`Commands`). -/

namespace PadLink

/-! ## Events -/

namespace Event

/-- Whether something is sent, or would have been. -/
def isSend : Event → Bool
  | sent _ _ => true
  | pollFailed _ _ _ => true
  | probeFailed _ _ => true
  | _ => false

/-- Whether the event belongs to the calls around an exchange: a request, or what became of a start
    before the exchange began. -/
def isOpening : Event → Bool
  | requested _ => true
  | settingsIgnored _ => true
  | starting _ => true
  | bound _ => true
  | bindFailed _ _ => true
  | timeoutRefused _ => true
  | unavailable _ => true
  | _ => false

/-- Whether the event begins an exchange, or is a state reply, a controller that comes, or a command
    to the motors. -/
def isNews : Event → Bool
  | exchangeStarted _ => true
  | connected _ => true
  | vibrationSet _ _ => true
  | event => event.reply?.isSome

theorem isStart_of_not_news {event : Event} (h : event.isNews = false) : event.isStart = false := by
  cases event with
  | exchangeStarted peer => cases h
  | _ => rfl

theorem reply?_of_not_news {event : Event} (h : event.isNews = false) : event.reply? = none := by
  cases event with
  | received payload sender => simpa [isNews] using h
  | _ => rfl

theorem not_poll_of_not_send {event : Event} (h : event.isSend = false) (receiver : SocketAddress)
    (datagram : Datagram) : event.mark? ≠ some (.poll receiver datagram) := by
  intro hmark
  cases event with
  | sent receiver datagram => cases h
  | pollFailed receiver datagram detail => cases h
  | _ => cases hmark

end Event

namespace Session

/-! ## What the exchange keeps -/

/-- A property of networks that is kept by all that the exchange does with them, as long as only
    allowed events are noted. What happens around an exchange it does not note itself. Polls are sent
    only as long as the session is not being closed. -/
structure Keeps (session : Session) (allowed : Event → Prop) (Q : Network → Prop) : Prop where
  plain : ∀ event : Event, event.isNews = false → event.isSend = false → event.isOpening = false →
    allowed event
  note : ∀ network event, allowed event → Q network → Q (network.note event)
  poll : session.setup.closing = false → ∀ network, Q network → Q (network.transmit session.setup.peer
    (.poll session.setup.vibrations) (.pollFailed session.setup.peer (.poll session.setup.vibrations)))
  inbox : ∀ network inbox, Q network → Q { network with inbox := inbox }
  clock : ∀ network time, Q network → Q { network with now := time }

theorem Keeps.congr {session : Session} {allowed : Event → Prop} {Q : Network → Prop}
    (h : session.Keeps allowed Q) (other : Session) (hsetup : other.setup = session.setup) :
    other.Keeps allowed Q := by
  obtain ⟨hplain, hnote, hpoll, hinbox, hclock⟩ := h
  rw [← hsetup] at hpoll
  exact ⟨hplain, hnote, hpoll, hinbox, hclock⟩

namespace Keeps

variable {session : Session} {allowed : Event → Prop} {Q : Network → Prop}
variable (h : session.Keeps allowed Q) (hQ : Q session.network)

include h hQ

theorem beginRound : Q session.beginRound.network := by
  unfold Session.beginRound
  split
  · exact h.note _ .exchangeEnded (h.plain _ rfl rfl rfl) hQ
  · next hopen => exact h.poll (Bool.eq_false_iff.2 hopen) _ hQ

theorem endPulse : Q session.endPulse.network :=
  (h.congr { session with bank := session.bank.setReady false } rfl).beginRound hQ

theorem declareOutage : Q session.declareOutage.network := by
  have hlost : Q session.loseServer.network := h.note _ _ (h.plain _ rfl rfl rfl) hQ
  unfold Session.declareOutage
  split
  · exact (h.congr _ (setup_loseServer session)).endPulse hlost
  · exact hlost

theorem countFailure : Q session.countFailure.network := by
  unfold Session.countFailure
  dsimp only
  split
  · exact h.declareOutage hQ
  · exact (h.congr { session with
      failures := min (session.failures + 1) failureCap } rfl).beginRound hQ

theorem expire : Q session.expire.network := by
  have hfailed : Q (session.note (.receiveFailed none)).network := h.note _ _ (h.plain _ rfl rfl rfl) hQ
  exact (h.congr (session.note (.receiveFailed none)) rfl).countFailure hfailed

theorem acceptFault (fault : Fault) : Q (session.acceptFault fault).network := by
  have hfailed : Q (session.note (.receiveFailed fault)).network :=
    h.note _ _ (h.plain _ rfl rfl rfl) hQ
  unfold Session.acceptFault
  dsimp only
  split
  · exact (h.congr (session.note (.receiveFailed fault)) rfl).countFailure hfailed
  · exact hfailed

theorem notes {events : List Event} (hallowed : ∀ event ∈ events, allowed event) :
    Q (events.foldl Session.note session).network := by
  induction events generalizing session with
  | nil => exact hQ
  | cons event rest ih =>
    have hnoted : Q (session.note event).network := h.note _ _ (hallowed event List.mem_cons_self) hQ
    exact ih (h.congr _ rfl) hnoted fun other hother => hallowed other (List.mem_cons_of_mem _ hother)

/-- A payload brings news only if it is a state reply. -/
theorem acceptPayload {bytes : List UInt8}
    (hreply : (Datagram.ofPayload (bytes.take receiveLimit)).reply = .state →
      ∀ event : Event, event.isSend = false → event.isStart = false → event.isOpening = false →
        allowed event) :
    Q (session.acceptPayload bytes).network := by
  unfold Session.acceptPayload
  dsimp only
  generalize bytes.take receiveLimit = payload at hreply
  generalize hheard : ({ session.note (.received payload session.peer) with
    failures := 0 } : Session) = heard
  have hsetup : heard.setup = session.setup := by rw [← hheard]; rfl
  have hnetwork : Q heard.network := by
    rw [← hheard]
    refine h.note _ _ ?_ hQ
    by_cases hstate : (Datagram.ofPayload payload).reply = .state
    · exact hreply hstate _ rfl rfl rfl
    · refine h.plain _ ?_ rfl rfl
      simp only [Event.isNews, Event.reply?, if_neg hstate, Option.isSome_none]
  have hdispatched : Q (heard.dispatch (.ofPayload payload)).network := by
    unfold dispatch
    split
    · exact hnetwork
    · next hstate =>
      refine (h.congr { heard with
        bank := (heard.bank.applyReply (.ofPayload payload)).2 } ?_).notes hnetwork ?_
      · rw [← hsetup]
        simp only [setup, now, Bank.vibrations_applyReply]
      · intro event hevent
        obtain ⟨change, -, hchange⟩ := List.mem_filterMap.1 hevent
        rcases changeEvent?_eq_some hchange with rfl | rfl
        · exact hreply hstate _ rfl rfl rfl
        · exact hreply hstate _ rfl rfl rfl
    · next header hunknown => exact h.note _ _ (h.plain _ rfl rfl rfl) hnetwork
  exact (h.congr _ ((setup_dispatch heard _).trans hsetup)).beginRound hdispatched

theorem receive
    (hreply : ∀ arrival ∈ session.network.inbox.head?, arrival.time ≤ session.now →
      ∀ bytes, arrival.delivery = .payload bytes →
        (Datagram.ofPayload (bytes.take receiveLimit)).reply = .state →
        ∀ event : Event, event.isSend = false → event.isStart = false → event.isOpening = false →
          allowed event) :
    Q session.receive.network := by
  have hdropped : Q session.dropHead.network := h.inbox _ _ hQ
  unfold Session.receive
  split
  · next arrival hhead =>
    split
    · next hdue =>
      cases hdelivery : arrival.delivery with
      | payload bytes =>
        exact (h.congr session.dropHead rfl).acceptPayload hdropped
          (hreply arrival hhead hdue bytes hdelivery)
      | fault fault => exact (h.congr session.dropHead rfl).acceptFault hdropped fault
    · exact h.expire hQ
  · exact h.expire hQ

/-- Whatever the wake-up is for. -/
theorem wake
    (hreply : ∀ deadline, session.phase = .receiving deadline →
      ∀ arrival ∈ session.network.inbox.head?, arrival.time ≤ session.now →
      ∀ bytes, arrival.delivery = .payload bytes →
        (Datagram.ofPayload (bytes.take receiveLimit)).reply = .state →
        ∀ event : Event, event.isSend = false → event.isStart = false → event.isOpening = false →
          allowed event) :
    Q session.wake.network := by
  unfold Session.wake
  split
  · next deadline hphase => exact h.receive hQ (hreply deadline hphase)
  · exact h.countFailure hQ
  · exact h.endPulse hQ
  · exact hQ
  · exact hQ

end Keeps

/-! ## Entries -/

theorem entries_of_journal {session after : Session} {fresh : List Entry}
    (hjournal : after.network.journal = fresh ++ session.network.journal)
    (hstart : ∀ entry ∈ fresh, entry.event.isStart = false) :
    after.entries = fresh ++ session.entries := by
  rw [entries, entries, hjournal, List.takeWhile_append_of_pos]
  intro entry hentry
  simp [hstart entry hentry]

/-- No news, and if a poll then one to the server with the motor speeds as they are. -/
def Plain (session : Session) (entry : Entry) : Prop :=
  entry.event.isNews = false
    ∧ ∀ receiver datagram, entry.event.mark? = some (.poll receiver datagram) →
      receiver = session.setup.peer ∧ datagram = .poll session.setup.vibrations

theorem plain_of_not_send (session : Session) {time : Nat} {event : Event}
    (hnews : event.isNews = false) (hsend : event.isSend = false) : session.Plain ⟨time, event⟩ :=
  ⟨hnews, fun receiver datagram hmark =>
    absurd hmark (Event.not_poll_of_not_send hsend receiver datagram)⟩

theorem Plain.congr {session other : Session} {entry : Entry} (h : session.Plain entry)
    (hsetup : other.setup = session.setup) : other.Plain entry := by
  rw [Plain, hsetup]
  exact h

/-- Without a state reply the exchange writes plain entries only. -/
theorem keeps_plain (session : Session) (base : List Entry) :
    session.Keeps (fun event => event.isNews = false ∧ event.isSend = false)
      (fun network => ∃ fresh, network.journal = fresh ++ base
        ∧ ∀ entry ∈ fresh, session.Plain entry) := by
  have hnote : ∀ (network : Network) (event : Event), session.Plain ⟨network.now, event⟩ →
      (∃ fresh, network.journal = fresh ++ base ∧ ∀ entry ∈ fresh, session.Plain entry) →
      ∃ fresh, (network.note event).journal = fresh ++ base
        ∧ ∀ entry ∈ fresh, session.Plain entry := by
    rintro network event hplain ⟨fresh, hjournal, hfresh⟩
    refine ⟨⟨network.now, event⟩ :: fresh, ?_, List.forall_mem_cons.2 ⟨hplain, hfresh⟩⟩
    rw [Network.note, hjournal]
    rfl
  refine ⟨fun _ hnews hsend _ => ⟨hnews, hsend⟩, ?_, ?_, fun _ _ h => h, fun _ _ h => h⟩
  · rintro network event ⟨hnews, hsend⟩ h
    exact hnote network event (plain_of_not_send session hnews hsend) h
  · intro _ network h
    unfold Network.transmit
    refine hnote { network with sends := network.sends + 1 } _ ?_ h
    split
    · exact ⟨rfl, fun receiver datagram hmark => by cases hmark; exact ⟨rfl, rfl⟩⟩
    · exact ⟨rfl, fun receiver datagram hmark => by cases hmark; exact ⟨rfl, rfl⟩⟩

/-! ## What a move writes -/

/-- The entries for the controllers that come and go with a state reply, the latest first. -/
def changeEntries (session : Session) (time : Nat) (datagram : Datagram) : List Entry :=
  (((session.bank.applyReply datagram).1.filterMap changeEvent?).map (Entry.mk time)).reverse

/-- What the exchange writes into the journal: plain entries, or a state reply with the changes that it
    makes. -/
inductive Writes (session after : Session) : Prop
  | plain (fresh : List Entry) (hentries : after.entries = fresh ++ session.entries)
      (hplain : ∀ entry ∈ fresh, session.Plain entry) (hpeer : after.peer = session.peer)
      (hvibrations : after.bank.vibrations = session.bank.vibrations)
  | reply (fresh : List Entry) (payload : List UInt8)
      (hreply : (Datagram.ofPayload payload).reply = .state)
      (hentries : after.entries = fresh ++ (session.changeEntries after.now (.ofPayload payload)
        ++ ⟨after.now, .received payload session.peer⟩ :: session.entries))
      (hplain : ∀ entry ∈ fresh, session.Plain entry) (hpeer : after.peer = session.peer)
      (hbank : after.bank = (session.bank.applyReply (.ofPayload payload)).2)

/-- A command to the motors is carried out and written down. -/
structure Commands (session : Session) (slot : SlotIndex) (vibration : Vibration) (after : Session) :
    Prop where
  entries : after.entries = ⟨after.now, .vibrationSet slot vibration⟩ :: session.entries
  peer : after.peer = session.peer
  bank : after.bank = session.bank.setVibration slot vibration

/-- Neither the clock nor the inbox matters for what is written. -/
theorem Writes.congr {session other after : Session} (h : other.Writes after)
    (hentries : other.entries = session.entries) (hpeer : other.peer = session.peer)
    (hbank : other.bank = session.bank) : session.Writes after := by
  have hplain : ∀ entry, other.Plain entry → session.Plain entry := by
    rintro entry ⟨hnews, hpoll⟩
    refine ⟨hnews, fun receiver datagram hmark => ?_⟩
    obtain ⟨hreceiver, hdatagram⟩ := hpoll receiver datagram hmark
    refine ⟨hreceiver.trans hpeer, hdatagram.trans ?_⟩
    simp only [setup, hbank]
  cases h with
  | plain fresh h1 h2 h3 h4 =>
    rw [hentries] at h1
    rw [hpeer] at h3
    rw [hbank] at h4
    exact .plain fresh h1 (fun entry hentry => hplain entry (h2 entry hentry)) h3 h4
  | reply fresh payload hreply h1 h2 h3 h4 =>
    rw [changeEntries, hbank, hpeer, hentries] at h1
    rw [hpeer] at h3
    rw [hbank] at h4
    exact .reply fresh payload hreply h1 (fun entry hentry => hplain entry (h2 entry hentry)) h3 h4

/-- Nothing is written. -/
theorem writes_of_entries {session after : Session} (hentries : after.entries = session.entries)
    (hpeer : after.peer = session.peer)
    (hvibrations : after.bank.vibrations = session.bank.vibrations) : session.Writes after :=
  .plain [] hentries (by simp) hpeer hvibrations

/-- An event beside the exchange. -/
theorem writes_note {session : Session} {event : Event} (hnews : event.isNews = false)
    (hsend : event.isSend = false) : session.Writes (session.note event) :=
  .plain [⟨session.now, event⟩]
    (entries_note session event (Event.isStart_of_not_news hnews))
    (by simpa using plain_of_not_send session hnews hsend) rfl rfl

theorem writes_of_journal {session after : Session} (hsetup : after.setup = session.setup)
    (h : ∃ fresh, after.network.journal = fresh ++ session.network.journal
      ∧ ∀ entry ∈ fresh, session.Plain entry) : session.Writes after := by
  obtain ⟨fresh, hjournal, hplain⟩ := h
  have hentries := entries_of_journal hjournal fun entry hentry =>
    Event.isStart_of_not_news (hplain entry hentry).1
  exact .plain fresh hentries hplain (congrArg Setup.peer hsetup) (congrArg Setup.vibrations hsetup)

theorem writes_dispatch (session : Session) {datagram : Datagram} (hreply : datagram.reply = .state) :
    (session.dispatch datagram).entries
        = session.changeEntries session.now datagram ++ session.entries
      ∧ (session.dispatch datagram).bank = (session.bank.applyReply datagram).2 := by
  unfold dispatch
  rw [hreply]
  dsimp only
  rw [notes_eq]
  refine ⟨entries_of_journal rfl ?_, rfl⟩
  intro entry hentry
  obtain ⟨event, hevent, rfl⟩ := List.mem_map.1 (List.mem_reverse.1 hentry)
  obtain ⟨change, -, hchange⟩ := List.mem_filterMap.1 hevent
  exact (changeEvent?_aside hchange).1

theorem writes_acceptPayload (session : Session) {bytes : List UInt8}
    (hreply : (Datagram.ofPayload (bytes.take receiveLimit)).reply = .state) :
    session.Writes (session.acceptPayload bytes) := by
  have hsetup : (session.acceptPayload bytes).setup = session.setup :=
    setup_accept session (.payload bytes)
  unfold acceptPayload at hsetup ⊢
  dsimp only at hsetup ⊢
  generalize bytes.take receiveLimit = payload at hreply hsetup ⊢
  generalize hheard : ({ session.note (.received payload session.peer) with
    failures := 0 } : Session) = heard at hsetup ⊢
  have hentries : heard.entries = ⟨session.now, .received payload session.peer⟩ :: session.entries := by
    rw [← hheard]
    exact entries_note session (.received payload session.peer) rfl
  have hbank : heard.bank = session.bank := by rw [← hheard]; rfl
  have hnow : heard.now = session.now := by rw [← hheard]; rfl
  obtain ⟨hdispatched, hafter⟩ := writes_dispatch heard hreply
  rw [changeEntries, hbank, hnow, hentries, ← changeEntries] at hdispatched
  rw [hbank] at hafter
  generalize heard.dispatch (.ofPayload payload) = dispatched at hsetup hdispatched hafter ⊢
  rw [setup_beginRound] at hsetup
  obtain ⟨fresh, hjournal, hplain⟩ :=
    (keeps_plain dispatched dispatched.network.journal).beginRound ⟨[], rfl, by simp⟩
  have htime : dispatched.beginRound.now = session.now :=
    congrArg Setup.now ((setup_beginRound dispatched).trans hsetup)
  refine .reply fresh payload hreply ?_ (fun entry hentry => (hplain entry hentry).congr hsetup.symm)
    (congrArg Setup.peer ((setup_beginRound dispatched).trans hsetup)) ?_
  · rw [htime, ← hdispatched]
    exact entries_of_journal hjournal fun entry hentry =>
      Event.isStart_of_not_news (hplain entry hentry).1
  · rw [bank_beginRound, hafter]

theorem setup_wake (session : Session) : session.wake.setup = session.setup := by
  unfold wake
  split
  · unfold receive
    split
    · split
      · exact setup_accept _ _
      · exact setup_expire session
    · exact setup_expire session
  · exact setup_countFailure session
  · exact setup_endPulse session
  · rfl
  · rfl

theorem writes_wake (session : Session) : session.Writes session.wake := by
  by_cases hreply : ∃ deadline arrival bytes, session.phase = .receiving deadline
      ∧ session.network.inbox.head? = some arrival ∧ arrival.time ≤ session.now
      ∧ arrival.delivery = .payload bytes
      ∧ (Datagram.ofPayload (bytes.take receiveLimit)).reply = .state
  · obtain ⟨deadline, arrival, bytes, hphase, hhead, hdue, hdelivery, hstate⟩ := hreply
    have hwake : session.wake = session.dropHead.acceptPayload bytes := by
      simp only [wake, hphase, receive, hhead, hdue, if_true, hdelivery, accept]
    rw [hwake]
    exact (writes_acceptPayload session.dropHead hstate).congr rfl rfl rfl
  · refine writes_of_journal (setup_wake session)
      ((keeps_plain session session.network.journal).wake ⟨[], rfl, by simp⟩ ?_)
    intro deadline hphase arrival hhead hdue bytes hdelivery hstate
    exact absurd ⟨deadline, arrival, bytes, hphase, hhead, hdue, hdelivery, hstate⟩ hreply

/-- A command to the motors that succeeds is carried out, and one that fails changes nothing. -/
theorem commands_or_eq (session : Session) (index : UInt32) (vibration : Vibration) :
    (∃ slot, SlotIndex.check index = .ok slot ∧ (session.setVibration index vibration).1 = .ok ()
        ∧ session.Commands slot vibration (session.setVibration index vibration).2)
      ∨ (∃ error, (session.setVibration index vibration).1 = .error error)
        ∧ (session.setVibration index vibration).2 = session := by
  unfold Session.setVibration
  rcases SlotIndex.check index with error | slot
  · exact Or.inr ⟨⟨error, rfl⟩, rfl⟩
  · rcases session.check with error | _
    · exact Or.inr ⟨⟨error, rfl⟩, rfl⟩
    · exact Or.inl ⟨slot, rfl, rfl, entries_note _ (.vibrationSet slot vibration) rfl, rfl, rfl⟩

/-- Every move writes what the exchange writes, or is a command to the motors. -/
theorem Move.writes {before after : Session} (h : Move before after) :
    before.Writes after ∨ ∃ slot vibration, before.Commands slot vibration after := by
  cases h with
  | wake hwake => exact Or.inl ((writes_wake (before.atTime _)).congr rfl rfl rfl)
  | pass _ => exact Or.inl (writes_of_entries rfl rfl rfl)
  | deliver delivery => exact Or.inl (writes_of_entries rfl rfl rfl)
  | enable on =>
    refine Or.inl (writes_of_entries rfl rfl (Bank.vibrations_congr fun slot => ?_))
    rw [Session.enable, Bank.setEnabled, Bank.slot_mapSlots]
  | vibrate index vibration =>
    rcases commands_or_eq before index vibration with ⟨slot, -, -, hcommand⟩ | ⟨-, heq⟩
    · exact Or.inr ⟨slot, vibration, hcommand⟩
    · rw [heq]
      exact Or.inl (writes_of_entries rfl rfl rfl)
  | acknowledge peer => exact Or.inl (writes_note rfl rfl)
  | giveUp peer limit => exact Or.inl (writes_note rfl rfl)
  | tell =>
    exact Or.inl (.plain [⟨before.now, .closing⟩] (entries_note before .closing rfl)
      (by simpa using plain_of_not_send before rfl rfl) rfl rfl)

theorem writes_nextKeystroke (session : Session) (selector : Selector) :
    session.Writes (session.nextKeystroke selector).2 := by
  have hvibrations := fun slots => Bank.vibrations_firstKeystroke slots session.bank
  refine nextKeystroke_induction selector (writes_of_entries rfl rfl rfl) (fun slots => ?_)
    fun slots report => ?_
  · exact writes_of_entries rfl rfl (hvibrations slots)
  · exact .plain [⟨session.now, .keystroke report⟩] (entries_note _ (.keystroke report) rfl)
      (by simpa using plain_of_not_send session rfl rfl) rfl (hvibrations slots)

end Session

end PadLink
