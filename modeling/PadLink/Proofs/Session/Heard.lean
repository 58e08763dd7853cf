import PadLink.Proofs.Bank.Feed
import PadLink.Proofs.Bank.Action
import PadLink.Proofs.Session.Move

set_option autoImplicit false

/-! # What a session has heard

Two kinds of entries of the journal tell what the exchange has learned about the server: a payload
that is a state reply, and an outage. `Session.heard` lists them since the exchange began, the latest
first, with `none` for an outage.

`Turn` says once what a move can do to the phase, the flag, the slots and to what was heard. A wake-up
brings a state reply, an outage with or without a pulse, the end of a pulse, or nothing of the kind.
Whatever else happens is `Calm`: it changes nothing that the server decides, and only a keystroke
query changes the snapshots of reported keys. From this it follows at once that each slot follows its
own part of what was heard (`Reachable.follows`), wherever a caller runs. -/

namespace PadLink

/-! ## Reading the journal -/

namespace Event

/-- Whether the event is the beginning of an exchange. -/
def isStart : Event → Bool
  | exchangeStarted _ => true
  | _ => false

/-- The state reply that came in with the event. -/
def reply? : Event → Option Datagram
  | received payload _ =>
    if (Datagram.ofPayload payload).reply = .state then some (.ofPayload payload) else none
  | _ => none

/-- What the event tells of the server: a state reply, or an outage. -/
def heard? : Event → Option (Option Datagram)
  | outage _ _ _ => some none
  | event => event.reply?.map some

/-- Whether the event neither begins an exchange nor tells of the server. -/
def isAside (event : Event) : Bool := !event.isStart && event.heard?.isNone

end Event

namespace Session

/-- What has happened since the exchange began, the latest first. -/
def events (session : Session) : List Event :=
  (session.network.journal.map Entry.event).takeWhile fun event => !event.isStart

/-- The state replies and outages since the exchange began, the latest first. -/
def heard (session : Session) : List (Option Datagram) := session.events.filterMap Event.heard?

/-- The part of a slot in what was heard. -/
def feed (session : Session) (slot : SlotIndex) : Feed :=
  session.heard.map fun entry => entry.map fun datagram => datagram.block slot

/-- Whether the exchange holds the readiness pulse. -/
def pulses (session : Session) : Bool :=
  match session.phase with
  | .pulsing _ => true
  | _ => false

theorem events_note {event : Event} (h : event.isStart = false) (session : Session) :
    (session.note event).events = event :: session.events := by
  simp [events, note, Network.note, h]

theorem heard_note {event : Event} (h : event.isStart = false) (session : Session) :
    (session.note event).heard = event.heard?.toList ++ session.heard := by
  rw [heard, heard, events_note h, List.filterMap_cons]
  cases event.heard? <;> rfl

theorem heard_note_aside {event : Event} (h : event.isAside = true) (session : Session) :
    (session.note event).heard = session.heard := by
  simp only [Event.isAside, Bool.and_eq_true, Bool.not_eq_true', Option.isNone_iff_eq_none] at h
  rw [heard_note h.1, h.2]
  rfl

/-! ## The steps of the exchange -/

section

variable (session : Session)

@[simp] theorem bank_note (event : Event) : (session.note event).bank = session.bank := rfl

theorem notes_aside {events : List Event} (h : ∀ event ∈ events, event.isAside = true) :
    (events.foldl note session).bank = session.bank
      ∧ (events.foldl note session).heard = session.heard := by
  induction events generalizing session with
  | nil => exact ⟨rfl, rfl⟩
  | cons event rest ih =>
    obtain ⟨hbank, hheard⟩ :=
      ih (session.note event) fun other hother => h other (List.mem_cons_of_mem _ hother)
    refine ⟨hbank, ?_⟩
    rw [List.foldl_cons, hheard, heard_note_aside (h event List.mem_cons_self)]

@[simp] theorem bank_beginRound : session.beginRound.bank = session.bank := by
  unfold beginRound
  split <;> rfl

@[simp] theorem pulses_beginRound : session.beginRound.pulses = false := by
  unfold beginRound
  split <;> rfl

@[simp] theorem heard_sendPoll : session.sendPoll.heard = session.heard := by
  unfold sendPoll Network.transmit
  dsimp only
  split
  · exact heard_note_aside rfl session
  · exact heard_note_aside rfl session

@[simp] theorem heard_beginRound : session.beginRound.heard = session.heard := by
  unfold beginRound
  split
  · exact heard_note_aside rfl session
  · exact heard_sendPoll session

theorem bank_dispatch (datagram : Datagram) :
    (session.dispatch datagram).bank
        = (if datagram.reply = .state then (session.bank.applyReply datagram).2 else session.bank)
      ∧ (session.dispatch datagram).heard = session.heard := by
  unfold dispatch
  split
  · next hreply => rw [hreply]; exact ⟨rfl, rfl⟩
  · next hreply =>
    dsimp only
    have haside : ∀ event ∈ (session.bank.applyReply datagram).1.filterMap changeEvent?,
        event.isAside = true := by
      intro event hevent
      obtain ⟨⟨slot, change⟩, -, hchange⟩ := List.mem_filterMap.1 hevent
      cases change <;> simp only [changeEvent?, reduceCtorEq, Option.some.injEq] at hchange <;>
        (rw [← hchange]; rfl)
    rw [hreply, if_pos rfl]
    exact notes_aside { session with bank := (session.bank.applyReply datagram).2 } haside
  · next header hreply =>
    rw [hreply]
    exact ⟨rfl, heard_note_aside rfl session⟩

@[simp] theorem heard_loseServer : session.loseServer.heard = none :: session.heard :=
  heard_note rfl session

end

/-! ## What a move does -/

/-- Nothing changed that the server decides. -/
structure Calm (before after : Session) : Prop where
  heard : after.heard = before.heard
  pulses : after.pulses = before.pulses
  ready : after.bank.ready = before.bank.ready
  told : ∀ slot, (after.bank.slot slot).told = (before.bank.slot slot).told

/-- The change of phase, flag, slots and of what was heard in one move. -/
inductive Turn (before after : Session) : Prop
  | calm (h : before.Calm after)
      (hreported : ∀ slot, (after.bank.slot slot).reported = (before.bank.slot slot).reported)
  | reply (datagram : Datagram) (hheard : after.heard = some datagram :: before.heard)
      (hbefore : before.pulses = false) (hafter : after.pulses = false)
      (hbank : after.bank = (before.bank.applyReply datagram).2)
  | outage (hheard : after.heard = none :: before.heard) (hbefore : before.pulses = false)
      (hbank : after.bank = before.bank.disconnectAll.2.setReady after.pulses)
  | pulseEnd (hheard : after.heard = before.heard) (hbefore : before.pulses = true)
      (hafter : after.pulses = false) (hbank : after.bank = before.bank.setReady false)

theorem Turn.of_bank_eq {before after : Session} (hheard : after.heard = before.heard)
    (hpulses : after.pulses = before.pulses) (hbank : after.bank = before.bank) :
    Turn before after :=
  .calm ⟨hheard, hpulses, by rw [hbank], fun slot => by rw [hbank]⟩ fun slot => by rw [hbank]

/-- Where a turn begins from only counts up to phase, bank and what was heard. -/
theorem Turn.congr {before other after : Session} (h : Turn other after)
    (hheard : other.heard = before.heard) (hpulses : other.pulses = before.pulses)
    (hbank : other.bank = before.bank) : Turn before after := by
  cases h with
  | calm hcalm hreported =>
    obtain ⟨h1, h2, h3, h4⟩ := hcalm
    rw [hheard] at h1
    rw [hpulses] at h2
    rw [hbank] at h3 h4 hreported
    exact .calm ⟨h1, h2, h3, h4⟩ hreported
  | reply datagram h1 h2 h3 h4 =>
    rw [hheard] at h1
    rw [hpulses] at h2
    rw [hbank] at h4
    exact .reply datagram h1 h2 h3 h4
  | outage h1 h2 h3 =>
    rw [hheard] at h1
    rw [hpulses] at h2
    rw [hbank] at h3
    exact .outage h1 h2 h3
  | pulseEnd h1 h2 h3 h4 =>
    rw [hheard] at h1
    rw [hpulses] at h2
    rw [hbank] at h4
    exact .pulseEnd h1 h2 h3 h4

section

variable {session : Session} (h : session.pulses = false)

include h

theorem turn_countFailure : Turn session session.countFailure := by
  unfold countFailure
  dsimp only
  split
  · unfold declareOutage
    split
    -- A pulse of no length has ended within the same wake-up.
    · refine .outage ?_ h ?_
      · exact (heard_beginRound _).trans (heard_loseServer session)
      · rw [endPulse, pulses_beginRound, bank_beginRound]
        rfl
    · exact .outage (heard_loseServer session) h rfl
  · refine .of_bank_eq ?_ ?_ ?_
    · exact heard_beginRound _
    · rw [pulses_beginRound, h]
    · exact bank_beginRound _

theorem turn_acceptPayload (bytes : List UInt8) : Turn session (session.acceptPayload bytes) := by
  unfold acceptPayload
  dsimp only
  generalize bytes.take receiveLimit = payload
  have hnoted : (session.note (.received payload session.peer)).heard
      = (Event.received payload session.peer).heard?.toList ++ session.heard := heard_note rfl session
  obtain ⟨hbank, hheard⟩ := bank_dispatch
    { session.note (.received payload session.peer) with failures := 0 } (.ofPayload payload)
  rw [← heard_beginRound] at hheard
  rw [← bank_beginRound] at hbank
  by_cases hreply : (Datagram.ofPayload payload).reply = .state
  · rw [if_pos hreply] at hbank
    have hsome : (Event.received payload session.peer).heard? = some (some (.ofPayload payload)) := by
      simp only [Event.heard?, Event.reply?, if_pos hreply, Option.map_some]
    rw [hsome] at hnoted
    exact .reply (.ofPayload payload) (hheard.trans hnoted) h (pulses_beginRound _) hbank
  · rw [if_neg hreply] at hbank
    have hnone : (Event.received payload session.peer).heard? = none := by
      simp only [Event.heard?, Event.reply?, if_neg hreply, Option.map_none]
    rw [hnone] at hnoted
    exact .of_bank_eq (hheard.trans hnoted) ((pulses_beginRound _).trans h.symm) hbank

theorem turn_acceptFault (fault : Fault) : Turn session (session.acceptFault fault) := by
  have haside : (session.note (.receiveFailed fault)).heard = session.heard :=
    heard_note_aside rfl session
  unfold acceptFault
  dsimp only
  split
  · have hfailed : (session.note (.receiveFailed fault)).pulses = false := h
    exact (turn_countFailure hfailed).congr haside rfl rfl
  · exact .of_bank_eq haside h.symm rfl

theorem turn_expire : Turn session session.expire := by
  have hfailed : (session.note (.receiveFailed none)).pulses = false := h
  exact (turn_countFailure hfailed).congr (heard_note_aside rfl session) rfl rfl

theorem turn_receive : Turn session session.receive := by
  have hdropped : session.dropHead.pulses = false := h
  unfold receive
  split
  · next arrival hhead =>
    split
    · cases arrival.delivery with
      | payload bytes => exact (turn_acceptPayload hdropped bytes).congr rfl rfl rfl
      | fault fault => exact (turn_acceptFault hdropped fault).congr rfl rfl rfl
    · exact turn_expire h
  · exact turn_expire h

end

theorem turn_resume {session : Session} {time : Nat} (h : session.nextWake = some time) :
    Turn session (session.resume time) := by
  have hphase : (session.atTime time).phase = session.phase := rfl
  suffices hturn : Turn (session.atTime time) (session.resume time) by
    exact hturn.congr rfl rfl rfl
  unfold resume wake
  rw [hphase]
  cases hcase : session.phase with
  | absent reason => simp [nextWake, hcase, Phase.timer] at h
  | stopped => simp [nextWake, hcase, Phase.timer] at h
  -- Only this phase takes a delivery: what comes in during the others waits in the inbox.
  | receiving deadline => exact turn_receive (by simp [pulses, hphase, hcase])
  | pacing until_ => exact turn_countFailure (by simp [pulses, hphase, hcase])
  | pulsing until_ =>
    have hended : (session.atTime time).endPulse.heard = (session.atTime time).heard :=
      heard_beginRound { session.atTime time with bank := session.bank.setReady false }
    exact .pulseEnd hended (by simp [pulses, hphase, hcase]) (pulses_beginRound _)
      (bank_beginRound _)

/-- Every move is a turn: callers write only what the server does not decide. -/
theorem Move.turn {before after : Session} (h : Move before after) : Turn before after := by
  cases h with
  | wake hwake => exact turn_resume hwake
  | pass _ => exact .of_bank_eq rfl rfl rfl
  | deliver delivery => exact .of_bank_eq rfl rfl rfl
  | enable on =>
    have hslot : ∀ slot, (before.enable on).bank.slot slot
        = { before.bank.slot slot with enabled := on } :=
      fun slot => Bank.slot_mapSlots before.bank _ slot
    refine .calm ⟨rfl, rfl, rfl, ?_⟩ ?_
    · intro slot
      rw [hslot]
      rfl
    · intro slot
      rw [hslot]
  | vibrate index vibration =>
    unfold Session.setVibration
    split
    · exact .of_bank_eq rfl rfl rfl
    · next slot _ =>
      split
      · exact .of_bank_eq rfl rfl rfl
      · refine .calm ⟨heard_note_aside rfl _, rfl, rfl, ?_⟩ ?_
        · intro other
          simp only [bank_note, Bank.setVibration, Bank.slot_modify]
          split
          · next heq => rw [heq]; rfl
          · rfl
        · intro other
          simp only [bank_note, Bank.setVibration, Bank.slot_modify]
          split
          · next heq => rw [heq]
          · rfl
  | acknowledge peer => exact .of_bank_eq (heard_note_aside rfl before) rfl rfl
  | giveUp peer limit => exact .of_bank_eq (heard_note_aside rfl before) rfl rfl
  | tell => exact .of_bank_eq (heard_note_aside rfl before) rfl rfl

theorem Turn.reported {before after : Session} (h : Turn before after) (slot : SlotIndex) :
    (after.bank.slot slot).reported = (before.bank.slot slot).reported := by
  cases h with
  | calm _ hreported => exact hreported slot
  | reply datagram _ _ _ hbank =>
    rw [hbank, Bank.slot_applyReply]
    exact (Slot.apply_keeps _ _).1
  | outage _ _ hbank =>
    rw [hbank, Bank.slot_setReady, Bank.slot_disconnectAll]
    exact (Slot.vacate_keeps _).2.1
  | pulseEnd _ _ _ hbank => rw [hbank, Bank.slot_setReady]

/-- A keystroke query is refused, or asks the bank, or notes what it has found there besides. -/
theorem nextKeystroke_induction {P : Session → Prop} {session : Session} (selector : Selector)
    (hrefused : P session)
    (hasked : ∀ slots, P { session with bank := (Bank.firstKeystroke slots session.bank).2 })
    (hnoted : ∀ slots report, P (({ session with
      bank := (Bank.firstKeystroke slots session.bank).2 } : Session).note (.keystroke report))) :
    P (session.nextKeystroke selector).2 := by
  unfold nextKeystroke
  split
  · exact hrefused
  · next slots _ =>
    dsimp only
    cases (Bank.firstKeystroke slots session.bank).1 with
    | none => exact hasked slots
    | some report => exact hnoted slots report

/-- A keystroke query changes no more than snapshots. -/
theorem calm_nextKeystroke (session : Session) (selector : Selector) :
    session.Calm (session.nextKeystroke selector).2 := by
  have hready := fun slots => Bank.ready_firstKeystroke slots session.bank
  have htold := fun slots => Bank.told_firstKeystroke slots session.bank
  refine nextKeystroke_induction selector ⟨rfl, rfl, rfl, fun _ => rfl⟩ (fun slots => ?_)
    fun slots report => ?_
  · exact ⟨rfl, rfl, hready slots, htold slots⟩
  · exact ⟨heard_note_aside rfl _, rfl, hready slots, htold slots⟩

/-- A keystroke query asks the bank for the slots that its selector means. -/
theorem nextKeystroke_of_selected {selector : Selector} {slots : List SlotIndex}
    (h : selected selector = .ok slots) (session : Session) :
    (session.nextKeystroke selector).1 = .ok (Bank.firstKeystroke slots session.bank).1
      ∧ (session.nextKeystroke selector).2.bank = (Bank.firstKeystroke slots session.bank).2 := by
  unfold nextKeystroke
  rw [h]
  dsimp only
  cases (Bank.firstKeystroke slots session.bank).1 <;> exact ⟨rfl, rfl⟩

/-! ## Slots follow what was heard -/

theorem heard_launch (settings : Settings) (peer : SocketAddress) (network : Network) :
    (launch settings peer network).heard = [] := by
  unfold launch
  rw [heard_beginRound]
  simp [heard, events, Network.note, Event.isStart]

theorem Calm.follows {before after : Session} (h : before.Calm after) {slot : SlotIndex}
    (hbefore : (before.bank.slot slot).Follows (before.feed slot)) :
    (after.bank.slot slot).Follows (after.feed slot) := by
  rw [feed, h.heard]
  exact hbefore.of_told (h.told slot)

theorem Turn.follows {before after : Session} (h : Turn before after) {slot : SlotIndex}
    (hbefore : (before.bank.slot slot).Follows (before.feed slot)) :
    (after.bank.slot slot).Follows (after.feed slot) := by
  cases h with
  | calm hcalm _ => exact hcalm.follows hbefore
  | reply datagram hheard _ _ hbank =>
    rw [feed, hheard, hbank, Bank.slot_applyReply]
    exact hbefore.apply (datagram.block slot)
  | outage hheard _ hbank =>
    rw [feed, hheard, hbank, Bank.slot_setReady, Bank.slot_disconnectAll]
    exact hbefore.vacate
  | pulseEnd hheard _ _ hbank =>
    rw [feed, hheard, hbank, Bank.slot_setReady]
    exact hbefore

/-- Wherever a caller runs, every slot is what its blocks and outages make of it. -/
theorem Reachable.follows {session : Session} (h : Reachable session) (slot : SlotIndex) :
    (session.bank.slot slot).Follows (session.feed slot) := by
  refine Reachable.induction
    (P := fun session => (session.bank.slot slot).Follows (session.feed slot)) ?_ ?_ ?_ h
  · intro settings peer network
    have hbank : (launch settings peer network).bank = {} := bank_beginRound _
    simp only [feed, heard_launch, hbank, Bank.slot_default]
    exact Slot.follows_default
  · intro before after hmove hbefore
    exact hmove.turn.follows hbefore
  · intro session selector hbefore
    exact (calm_nextKeystroke session selector).follows hbefore

/-- A connected slot was flagged in a reply, and nothing was heard since. -/
theorem Reachable.heard_of_connected {session : Session} (h : Reachable session) {slot : SlotIndex}
    (hconnected : (session.bank.slot slot).connected = true) :
    ∃ datagram rest, session.heard = some datagram :: rest
      ∧ (datagram.block slot).isFlagged = true := by
  have hpresent : Feed.present (session.feed slot) = true :=
    (h.follows slot).connected.symm.trans hconnected
  obtain ⟨block, past, hfeed, hflag⟩ := Feed.exists_block_of_present hpresent
  obtain ⟨entry, rest, hheard, hentry, -⟩ := List.map_eq_cons_iff.1 hfeed
  obtain ⟨datagram, rfl, rfl⟩ := Option.map_eq_some_iff.1 hentry
  exact ⟨datagram, rest, hheard, hflag⟩

end Session

end PadLink
