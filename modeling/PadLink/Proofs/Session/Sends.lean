import Mathlib.Data.List.Basic
import PadLink.Proofs.Session.Journal
import PadLink.Proofs.Session.Smooth

set_option autoImplicit false

/-! # Attempts to send

A session tries to send a probe once and after that only polls, all to its server. What goes out are
these attempts without those whose ordinals are to fail (`attempts_of_run`). The journal is a ledger of
this: since the exchange began it has grown by polls alone, each with the next ordinal (`Ledger`), and
whatever else is noted is no attempt. -/

namespace PadLink

/-! ## Attempts -/

/-- A datagram that was sent or should have been, its receiver, and when. -/
abbrev Attempt := Nat × SocketAddress × Datagram

/-- The attempt that an entry is. -/
def Entry.attempt? (entry : Entry) : Option Attempt :=
  match entry.event with
  | .sent receiver datagram => some (entry.time, receiver, datagram)
  | .pollFailed receiver datagram _ => some (entry.time, receiver, datagram)
  | .probeFailed receiver _ => some (entry.time, receiver, .probe)
  | _ => none

/-- The attempt that an entry is, if it was successful. -/
def Entry.sent? (entry : Entry) : Option Attempt :=
  match entry.event with
  | .sent receiver datagram => some (entry.time, receiver, datagram)
  | _ => none

/-- All attempts in a journal, the earliest first. -/
def attempts (journal : List Entry) : List Attempt := (journal.filterMap Entry.attempt?).reverse

/-- The successful attempts in a journal, the earliest first. -/
def delivered (journal : List Entry) : List Attempt := (journal.filterMap Entry.sent?).reverse

/-- What is left of attempts with ordinals from the given one on if those with the listed ordinals
    fail. -/
def surviving (failing : List Nat) (first : Nat) (tried : List Attempt) : List Attempt :=
  (tried.zipIdx first).filterMap fun numbered =>
    if numbered.2 ∈ failing then none else some numbered.1

theorem attempts_append (later earlier : List Entry) :
    attempts (later ++ earlier) = attempts earlier ++ attempts later := by
  simp [attempts]

theorem delivered_append (later earlier : List Entry) :
    delivered (later ++ earlier) = delivered earlier ++ delivered later := by
  simp [delivered]

theorem surviving_append (failing : List Nat) (first : Nat) (tried more : List Attempt) :
    surviving failing first (tried ++ more)
      = surviving failing first tried ++ surviving failing (first + tried.length) more := by
  simp [surviving, List.zipIdx_append]

theorem attempts_smooth (journal : List Entry) :
    attempts (journal.map Entry.smooth) = attempts journal := by
  have hsmooth : ∀ entry : Entry, entry.smooth.attempt? = entry.attempt? := by
    rintro ⟨time, event⟩
    cases event <;> rfl
  rw [attempts, attempts, List.filterMap_map]
  exact congrArg (fun f => (journal.filterMap f).reverse) (funext hsmooth)

theorem attempt?_of_not_send (time : Nat) {event : Event} (h : event.isSend = false) :
    (Entry.mk time event).attempt? = none ∧ (Entry.mk time event).sent? = none := by
  cases event with
  | sent receiver datagram => cases h
  | pollFailed receiver datagram detail => cases h
  | probeFailed receiver detail => cases h
  | _ => exact ⟨rfl, rfl⟩

/-- An event that is no send adds nothing. -/
theorem attempts_cons_of_not_send (time : Nat) {event : Event} (h : event.isSend = false)
    (journal : List Entry) : attempts (⟨time, event⟩ :: journal) = attempts journal
      ∧ delivered (⟨time, event⟩ :: journal) = delivered journal := by
  obtain ⟨hattempt, hsent⟩ := attempt?_of_not_send time h
  constructor
  · simp [attempts, hattempt]
  · simp [delivered, hsent]

theorem attempts_note (network : Network) (event : Event) (hsend : event.isSend = false) :
    attempts (network.note event).journal = attempts network.journal
      ∧ delivered (network.note event).journal = delivered network.journal :=
  attempts_cons_of_not_send network.now hsend network.journal

/-- A send is one attempt, and goes out unless its ordinal is to fail. -/
theorem Network.transmit_eq (network : Network) (receiver : SocketAddress) (datagram : Datagram)
    (failure : String → Event) (hfailure : ∀ time reason,
      (Entry.mk time (failure reason)).attempt? = some (time, receiver, datagram)
        ∧ (Entry.mk time (failure reason)).sent? = none) :
    ∃ event, network.transmit receiver datagram failure
        = ({ network with sends := network.sends + 1 } : Network).note event
      ∧ (event = failure Obstacles.sendFault ∨ event = .sent receiver datagram)
      ∧ attempts [⟨network.now, event⟩] = [(network.now, receiver, datagram)]
      ∧ delivered [⟨network.now, event⟩]
        = surviving network.obstacles.sends network.sends [(network.now, receiver, datagram)] := by
  by_cases hfails : network.sends ∈ network.obstacles.sends
  · obtain ⟨hattempt, hsent⟩ := hfailure network.now Obstacles.sendFault
    refine ⟨failure Obstacles.sendFault, by simp only [transmit, if_pos hfails], Or.inl rfl, ?_, ?_⟩
    · simp [attempts, hattempt]
    · simp [delivered, surviving, hsent, hfails]
  · refine ⟨.sent receiver datagram, by simp only [transmit, if_neg hfails], Or.inr rfl, ?_, ?_⟩
    · simp [attempts, Entry.attempt?]
    · simp [delivered, surviving, Entry.sent?, hfails]

/-! ## The network of an exchange -/

/-- A property of networks that an exchange with the given server keeps, whatever the motor speeds. -/
structure Network.Kept (peer : SocketAddress) (Q : Network → Prop) : Prop where
  note : ∀ network event, event.isSend = false → event.isStart = false → event.isOpening = false →
    Q network → Q (network.note event)
  poll : ∀ network vibrations, Q network →
    Q (network.transmit peer (.poll vibrations) (.pollFailed peer (.poll vibrations)))
  inbox : ∀ network inbox, Q network → Q { network with inbox := inbox }
  clock : ∀ network time, Q network → Q { network with now := time }

namespace Session

open Network (Kept)

theorem keeps_of_kept {session : Session} {Q : Network → Prop} (h : Kept session.peer Q) :
    session.Keeps (fun event => event.isSend = false ∧ event.isStart = false
      ∧ event.isOpening = false) Q where
  plain _ hnews hsend hopening := ⟨hsend, Event.isStart_of_not_news hnews, hopening⟩
  note network event hallowed := h.note network event hallowed.1 hallowed.2.1 hallowed.2.2
  poll _ network := h.poll network session.setup.vibrations
  inbox := h.inbox
  clock := h.clock

/-- The exchange is with this server, and its network has the property. -/
def Has (peer : SocketAddress) (Q : Network → Prop) (session : Session) : Prop :=
  session.peer = peer ∧ Q session.network

section

variable {peer : SocketAddress} {Q : Network → Prop} (h : Kept peer Q)

include h

theorem has_note (session : Session) (event : Event) (hsession : Has peer Q session)
    (hsend : event.isSend = false) (hstart : event.isStart = false)
    (hopening : event.isOpening = false) : Has peer Q (session.note event) :=
  ⟨hsession.1, h.note _ _ hsend hstart hopening hsession.2⟩

theorem has_wake (session : Session) (hsession : Has peer Q session) : Has peer Q session.wake := by
  obtain ⟨rfl, hQ⟩ := hsession
  refine ⟨congrArg Setup.peer (setup_wake session), (keeps_of_kept h).wake hQ ?_⟩
  exact fun _ _ _ _ _ _ _ _ _ hsend hstart hopening => ⟨hsend, hstart, hopening⟩

theorem has_move {before after : Session} (hmove : Move before after)
    (hbefore : Has peer Q before) : Has peer Q after := by
  cases hmove with
  | wake hwake => exact has_wake h (before.atTime _) ⟨hbefore.1, h.clock _ _ hbefore.2⟩
  | pass _ => exact ⟨hbefore.1, h.clock _ _ hbefore.2⟩
  | deliver delivery => exact ⟨hbefore.1, h.inbox _ _ hbefore.2⟩
  | enable on => exact hbefore
  | vibrate index vibration =>
    unfold Session.setVibration
    split
    · exact hbefore
    · split
      · exact hbefore
      · exact has_note h { before with bank := before.bank.setVibration _ vibration }
          (.vibrationSet _ vibration) hbefore rfl rfl rfl
  | acknowledge peer => exact has_note h before (.acknowledged peer) hbefore rfl rfl rfl
  | giveUp peer limit => exact has_note h before (.unacknowledged peer limit) hbefore rfl rfl rfl
  | tell => exact has_note h before .closing hbefore rfl rfl rfl

theorem has_nextKeystroke {session : Session} (selector : Selector) (hsession : Has peer Q session) :
    Has peer Q (session.nextKeystroke selector).2 := by
  refine nextKeystroke_induction selector hsession (fun _ => hsession) fun slots report => ?_
  exact has_note h { session with bank := (Bank.firstKeystroke slots session.bank).2 }
    (.keystroke report) hsession rfl rfl rfl

end

/-! ## Along a run -/

theorem run_induction {P : Session → Prop}
    (hmove : ∀ before after, Move before after → P before → P after)
    (hask : ∀ session selector, P session → P (nextKeystroke session selector).2)
    {session last : Session} {steps : List Step} {answers : List Answer}
    (hrun : session.run steps = some (answers, last)) (hsession : P session) : P last := by
  induction steps generalizing session answers with
  | nil =>
    obtain ⟨-, rfl⟩ := Prod.mk.inj (Option.some.inj hrun)
    exact hsession
  | cons step rest ih =>
    obtain ⟨answer, next, others, hstep, hrest, -⟩ := run_cons_eq_some.1 hrun
    refine ih hrest ?_
    rcases leads_step hstep with ⟨hleads, -⟩ | ⟨selector, -, rfl⟩
    · exact hleads.induction hmove hsession
    · exact hask session selector hsession

/-- What the exchange keeps from its first round on holds at the end of a run, and when the session is
    closed then. -/
theorem openWith_induction {P : Session → Prop}
    (hmove : ∀ before after, Move before after → P before → P after)
    (hask : ∀ session selector, P session → P (nextKeystroke session selector).2)
    {settings : Settings} {peer : SocketAddress} {network : Network} {steps : List Step}
    {answers : List Answer} {last session : Session} (hbind : network.obstacles.bind = none)
    (hspawn : network.obstacles.spawn = none)
    (hlaunch : P (launch settings peer (knock settings peer network)))
    (hrun : (openWith settings peer network).run steps = some (answers, last))
    (hsession : session = last ∨ session = last.close) : P session := by
  rw [openWith_of_unobstructed hbind hspawn] at hrun
  have hlast : P last :=
    run_induction hmove hask hrun ((leads_awaitHandshake _).induction hmove hlaunch)
  rcases hsession with rfl | rfl
  · exact hlast
  · exact (leads_close last).induction hmove hlast

/-! ## The ledger of the sends -/

/-- The poll that a mark is, with its time. -/
def pollAttempt? (entry : Nat × Mark) : Option Attempt :=
  match entry.2 with
  | .poll receiver datagram => some (entry.1, receiver, datagram)
  | _ => none

/-- The polls since the exchange began, the earliest first. -/
def polls (session : Session) : List Attempt := (session.marks.filterMap pollAttempt?).reverse

/-- The journal has grown on the given base, by attempts to poll only, which have gone through their
    ordinals and failed where they should. -/
structure Ledger (failing : List Nat) (first : Nat) (base : List Entry) (network : Network) :
    Prop where
  obstacles : network.obstacles.sends = failing
  grown : ∃ fresh, network.journal = fresh ++ base
    ∧ (∀ entry ∈ fresh, entry.event.isStart = false
      ∧ entry.attempt? = (entry.event.mark?.map fun mark => (entry.time, mark)).bind pollAttempt?)
    ∧ network.sends = first + (attempts fresh).length
    ∧ delivered fresh = surviving failing first (attempts fresh)

theorem kept_ledger (peer : SocketAddress) (failing : List Nat) (first : Nat) (base : List Entry) :
    Network.Kept peer (Ledger failing first base) where
  note network event hsend hstart _ := by
    rintro ⟨hfailing, fresh, hjournal, hfresh, hsends, hdelivered⟩
    obtain ⟨hattempts, hsent⟩ := attempts_cons_of_not_send network.now hsend fresh
    refine ⟨hfailing, ⟨network.now, event⟩ :: fresh, by rw [Network.note, hjournal]; rfl, ?_, ?_, ?_⟩
    · refine List.forall_mem_cons.2 ⟨⟨hstart, ?_⟩, hfresh⟩
      rw [(attempt?_of_not_send network.now hsend).1]
      rcases hmark : event.mark? with _ | mark
      · rfl
      · cases mark with
        | poll receiver datagram =>
          exact absurd hmark (Event.not_poll_of_not_send hsend receiver datagram)
        | _ => rfl
    · rw [hattempts]
      exact hsends
    · rw [hattempts, hsent]
      exact hdelivered
  poll network vibrations := by
    rintro ⟨hfailing, fresh, hjournal, hfresh, hsends, hdelivered⟩
    obtain ⟨event, htransmit, hevent, hattempts, hsent⟩ := network.transmit_eq peer (.poll vibrations)
      (.pollFailed peer (.poll vibrations)) fun _ _ => ⟨rfl, rfl⟩
    have hcons : Entry.mk network.now event :: fresh = [⟨network.now, event⟩] ++ fresh := rfl
    rw [htransmit]
    refine ⟨hfailing, ⟨network.now, event⟩ :: fresh, by rw [Network.note, hjournal]; rfl, ?_, ?_, ?_⟩
    · refine List.forall_mem_cons.2 ⟨?_, hfresh⟩
      rcases hevent with rfl | rfl <;> exact ⟨rfl, rfl⟩
    -- The ordinal of this send is that of the next attempt.
    · rw [hcons, attempts_append, hattempts, List.length_append, ← Nat.add_assoc, ← hsends]
      rfl
    · rw [hcons, attempts_append, delivered_append, hattempts, surviving_append, hdelivered, hsent,
        hsends, hfailing]
  inbox _ _ h := ⟨h.obstacles, h.grown⟩
  clock _ _ h := ⟨h.obstacles, h.grown⟩

/-- Before the exchange begins there is one attempt, the probe. -/
theorem attempts_knock (settings : Settings) (peer : SocketAddress) (network : Network) :
    (knock settings peer network).sends = network.sends + 1
      ∧ (knock settings peer network).now = network.now
      ∧ attempts (knock settings peer network).journal
        = attempts network.journal ++ [(network.now, peer, .probe)]
      ∧ delivered (knock settings peer network).journal = delivered network.journal
        ++ surviving network.obstacles.sends network.sends [(network.now, peer, .probe)] := by
  obtain ⟨prepared, hknock, hsends, hnow, hobstacles, hattempts, hdelivered⟩ :
      ∃ prepared : Network,
        knock settings peer network = prepared.transmit peer .probe (.probeFailed peer)
          ∧ prepared.sends = network.sends ∧ prepared.now = network.now
          ∧ prepared.obstacles = network.obstacles
          ∧ attempts prepared.journal = attempts network.journal
          ∧ delivered prepared.journal = delivered network.journal := by
    obtain ⟨hattempts, hdelivered⟩ := attempts_note network (.bound settings.bindAddress) rfl
    unfold knock
    dsimp only
    split
    · next detail _ =>
      obtain ⟨htwice, hboth⟩ := attempts_note (network.note (.bound settings.bindAddress))
        (.timeoutRefused detail) rfl
      exact ⟨_, rfl, rfl, rfl, rfl, htwice.trans hattempts, hboth.trans hdelivered⟩
    · exact ⟨_, rfl, rfl, rfl, rfl, hattempts, hdelivered⟩
  obtain ⟨event, htransmit, -, hattempt, hsent⟩ := prepared.transmit_eq peer .probe
    (.probeFailed peer) fun _ _ => ⟨rfl, rfl⟩
  have hjournal : (({ prepared with sends := prepared.sends + 1 } : Network).note event).journal
      = [⟨prepared.now, event⟩] ++ prepared.journal := rfl
  rw [hknock, htransmit]
  refine ⟨congrArg (· + 1) hsends, hnow, ?_, ?_⟩
  · rw [hjournal, attempts_append, hattempt, hattempts, hnow]
  · rw [hjournal, delivered_append, hsent, hdelivered, hnow, hobstacles, hsends]

/-- The exchange begins with its start in the journal and one poll. -/
theorem has_launch {Q : Network → Prop} (settings : Settings) (peer : SocketAddress)
    (network : Network) (h : Kept peer Q) (hQ : Q (network.note (.exchangeStarted peer))) :
    Has peer Q (launch settings peer network) := by
  refine ⟨congrArg Setup.peer (setup_launch settings peer network), ?_⟩
  unfold launch
  exact (keeps_of_kept h).beginRound hQ

/-- After a run the server is the same, the attempts are the probe and the polls, and what went out is
    what did not fail. -/
theorem attempts_of_run {settings : Settings} {peer : SocketAddress} {network : Network}
    {steps : List Step} {answers : List Answer} {last session : Session}
    (hbind : network.obstacles.bind = none) (hspawn : network.obstacles.spawn = none)
    (hrun : (openWith settings peer network).run steps = some (answers, last))
    (hsession : session = last ∨ session = last.close) :
    session.peer = peer
      ∧ attempts session.network.journal
        = attempts network.journal ++ (network.now, peer, .probe) :: session.polls
      ∧ delivered session.network.journal = delivered network.journal
        ++ surviving network.obstacles.sends network.sends
          ((network.now, peer, .probe) :: session.polls) := by
  obtain ⟨hsends, -, hattempts, hdelivered⟩ := attempts_knock settings peer network
  have hobstacles := obstacles_knock settings peer network
  have hkept := kept_ledger peer network.obstacles.sends (network.sends + 1)
    ((knock settings peer network).note (.exchangeStarted peer)).journal
  have hlaunch := has_launch settings peer (knock settings peer network) hkept
    ⟨congrArg Obstacles.sends hobstacles, [], rfl, by simp, hsends, rfl⟩
  obtain ⟨hpeer, -, fresh, hjournal, hfresh, -, hsurviving⟩ :=
    openWith_induction (fun _ _ hmove => has_move hkept hmove)
      (fun _ selector => has_nextKeystroke hkept selector) hbind hspawn hlaunch hrun hsession
  have hentries : session.entries = fresh := by
    rw [entries, hjournal, List.takeWhile_append_of_pos]
    · simp [Network.note, Event.isStart]
    · intro entry hentry
      simp [(hfresh entry hentry).1]
  have hpolls : session.polls = attempts fresh := by
    rw [polls, marks, hentries, attempts, List.filterMap_filterMap]
    refine congrArg List.reverse (List.filterMap_congr fun entry hentry => ?_)
    exact (hfresh entry hentry).2.symm
  -- The start of the exchange is no attempt, so it adds nothing to those before it.
  obtain ⟨hstart, hstarted⟩ :=
    attempts_note (knock settings peer network) (.exchangeStarted peer) rfl
  refine ⟨hpeer, ?_, ?_⟩
  · rw [hjournal, attempts_append, hstart, hattempts, hpolls, List.append_assoc]
    rfl
  · rw [hjournal, delivered_append, hstarted, hdelivered, hsurviving, hpolls, List.append_assoc]
    exact congrArg (delivered network.journal ++ ·) (surviving_append _ _ [_] _).symm

end Session

end PadLink
