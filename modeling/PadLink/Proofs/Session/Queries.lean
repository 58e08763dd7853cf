import PadLink.Proofs.Session.HeldKeys
import PadLink.Proofs.Session.Journal
import PadLink.Proofs.Session.Looks

set_option autoImplicit false

/-! # One connection, many queries

Every query that tells something of a slot comes to its answer in its own way: through readiness,
through the connection, through a flag of the caller, through a mask. In a session that goes on they
never disagree (`queries_agree`). That the flag and the mask change nothing rests on what can be in a
slot at all: a connected slot has the capabilities of every controller, and a gamepad that came from a
block has no bit outside its buttons.

The packet number is tied to the journal: it counts the state replies since the latest entry that says
that the slot's controller came (`Counted`). -/

namespace PadLink

/-! ## What is in a slot -/

theorem Feed.possible_pad (feed : Feed) : (Feed.pad feed).Possible := by
  unfold Feed.pad
  generalize feed.findSome? (fun entry => entry.filter Block.isFlagged) = found
  rcases found with _ | block
  · exact Gamepad.possible_default
  · exact block.possible_gamepad

namespace Bank

theorem mem_applyReply (bank : Bank) (datagram : Datagram) (slot : SlotIndex) (change : SlotChange) :
    (slot, change) ∈ (bank.applyReply datagram).1
      ↔ change = ((bank.slot slot).apply (datagram.block slot)).1 := by
  rw [applyReply, fst_applyBlocks _ SlotIndex.nodup_all, List.mem_map]
  constructor
  · rintro ⟨index, -, heq⟩
    obtain ⟨rfl, rfl⟩ := Prod.mk.inj heq
    rfl
  · rintro rfl
    exact ⟨slot, SlotIndex.mem_all slot, rfl⟩

end Bank

namespace Session

/-! ## Replies since a controller came -/

/-- How many state replies there are up to the entry that says that the slot's controller came. That
    entry stands behind the reply with which it came, which counts as well. -/
def repliesUpTo (slot : SlotIndex) (events : List Event) : Nat :=
  (events.takeWhile (· != .connected slot)).countP (·.reply?.isSome) + 1

/-- How many state replies there were since the slot's controller came. -/
def repliesSinceConnect (session : Session) (slot : SlotIndex) : Nat :=
  repliesUpTo slot session.events

theorem repliesUpTo_append {slot : SlotIndex} {fresh earlier : List Event}
    (hreply : ∀ event ∈ fresh, event.reply? = none) (hmem : .connected slot ∉ fresh) :
    repliesUpTo slot (fresh ++ earlier) = repliesUpTo slot earlier := by
  have hpass : ∀ event ∈ fresh, (event != .connected slot) = true := by
    intro event hevent
    simp only [bne_iff_ne, ne_eq]
    rintro rfl
    exact hmem hevent
  have hnone : fresh.countP (·.reply?.isSome) = 0 :=
    List.countP_eq_zero.2 fun event hevent => by simp [hreply event hevent]
  rw [repliesUpTo, List.takeWhile_append_of_pos hpass, List.countP_append, hnone, Nat.zero_add]
  rfl

theorem repliesUpTo_of_mem {slot : SlotIndex} {fresh earlier : List Event}
    (hreply : ∀ event ∈ fresh, event.reply? = none) (hmem : .connected slot ∈ fresh) :
    repliesUpTo slot (fresh ++ earlier) = 1 := by
  obtain ⟨later, rest, rfl, hfirst⟩ := List.eq_append_cons_of_mem hmem
  rw [List.append_assoc, repliesUpTo_append
    (fun event hevent => hreply event (List.mem_append_left _ hevent)) hfirst]
  simp [repliesUpTo]

/-- A state reply in between counts. -/
theorem repliesUpTo_cons {slot : SlotIndex} {event : Event} (earlier : List Event)
    (hreply : event.reply?.isSome = true) :
    repliesUpTo slot (event :: earlier) = repliesUpTo slot earlier + 1 := by
  have hother : (event != .connected slot) = true := by
    simp only [bne_iff_ne, ne_eq]
    rintro rfl
    cases hreply
  simp only [repliesUpTo, List.takeWhile_cons, hother, if_true, List.countP_cons, hreply]

/-! ## The packet number -/

/-- The packet number of a slot with a controller is the number of state replies since it came. -/
def Counted (session : Session) : Prop :=
  ∀ slot, (session.bank.slot slot).connected = true →
    .connected slot ∈ session.events
      ∧ (session.bank.slot slot).state.packetNumber
        = UInt32.ofNat (session.repliesSinceConnect slot)

/-- It is still, if no reply comes and no controller. -/
theorem Counted.of_plain {session after : Session} {fresh : List Event} (h : session.Counted)
    (hevents : after.events = fresh ++ session.events)
    (hnews : ∀ event ∈ fresh, event.reply? = none ∧ ∀ slot, event ≠ .connected slot)
    (htold : ∀ slot, (after.bank.slot slot).connected = true →
      (after.bank.slot slot).told = (session.bank.slot slot).told) : after.Counted := by
  intro slot hconnected
  have hsame := htold slot hconnected
  simp only [Slot.told, Prod.mk.injEq] at hsame
  obtain ⟨hbefore, -, hstate⟩ := hsame
  obtain ⟨hmem, hnumber⟩ := h slot (hbefore.symm.trans hconnected)
  have hreplies : after.repliesSinceConnect slot = session.repliesSinceConnect slot := by
    rw [repliesSinceConnect, hevents, repliesUpTo_append (fun event hevent => (hnews event hevent).1)
      fun hcame => (hnews _ hcame).2 slot rfl]
    rfl
  rw [hevents, hstate, hreplies]
  exact ⟨List.mem_append_right _ hmem, hnumber⟩

theorem mem_changeEvents {bank : Bank} {datagram : Datagram} {slot : SlotIndex} :
    .connected slot ∈ (bank.applyReply datagram).1.filterMap changeEvent?
      ↔ ((bank.slot slot).apply (datagram.block slot)).1 = .connected := by
  rw [List.mem_filterMap, eq_comm, ← Bank.mem_applyReply]
  constructor
  · rintro ⟨⟨index, change⟩, hmem, hchange⟩
    cases change with
    | connected =>
      obtain rfl := Event.connected.inj (Option.some.inj hchange)
      exact hmem
    | _ => cases hchange
  · intro hmem
    exact ⟨_, hmem, rfl⟩

/-- A state reply lets the controller come, and then it is the first, or it is one more. -/
theorem Counted.of_reply {session after : Session} {fresh : List Event} {datagram : Datagram}
    {event : Event} (h : session.Counted) (hreply : event.reply? = some datagram)
    (hevents : after.events = fresh ++ (((session.bank.applyReply datagram).1.filterMap
      changeEvent?).reverse ++ event :: session.events))
    (hnews : ∀ event ∈ fresh, event.reply? = none ∧ ∀ slot, event ≠ .connected slot)
    (hbank : after.bank = (session.bank.applyReply datagram).2) : after.Counted := by
  intro slot hconnected
  have hnone : ∀ change ∈ ((session.bank.applyReply datagram).1.filterMap changeEvent?).reverse,
      change.reply? = none := by
    intro change hchange
    obtain ⟨_, -, hsome⟩ := List.mem_filterMap.1 (List.mem_reverse.1 hchange)
    rcases changeEvent?_eq_some hsome with rfl | rfl
    · rfl
    · rfl
  rw [hbank, Bank.slot_applyReply] at hconnected ⊢
  have hflag := (Slot.connected_apply _ _).symm.trans hconnected
  rw [repliesSinceConnect, hevents, repliesUpTo_append (fun event hevent => (hnews event hevent).1)
    fun hcame => (hnews _ hcame).2 slot rfl]
  rcases hslot : (session.bank.slot slot).connected with _ | _
  · have hcame : .connected slot
        ∈ ((session.bank.applyReply datagram).1.filterMap changeEvent?).reverse := by
      rw [List.mem_reverse, mem_changeEvents]
      simp [Slot.apply, hflag, hslot]
    rw [repliesUpTo_of_mem hnone hcame]
    refine ⟨List.mem_append_right _ (List.mem_append_left _ hcame), ?_⟩
    simp [Slot.apply, hflag, hslot, Slot.update, Slot.connect, GamepadState.update]
  · have hstays : .connected slot
        ∉ ((session.bank.applyReply datagram).1.filterMap changeEvent?).reverse := by
      rw [List.mem_reverse, mem_changeEvents]
      simp [Slot.apply, hflag, hslot]
    obtain ⟨hmem, hnumber⟩ := h slot hslot
    rw [repliesUpTo_append hnone hstays, repliesUpTo_cons _ (by rw [hreply]; rfl), UInt32.ofNat_add]
    refine ⟨List.mem_append_right _ (List.mem_append_right _ (List.mem_cons_of_mem _ hmem)), ?_⟩
    simp only [Slot.apply, hflag, hslot, if_true, Slot.update, GamepadState.update, hnumber]
    rfl

/-- Without a reply, what the server decides of a connected slot stays as it is. -/
theorem Turn.told {before after : Session} (h : Turn before after) {fresh : List Event}
    (hevents : after.events = fresh ++ before.events)
    (hreply : ∀ event ∈ fresh, event.reply? = none) (slot : SlotIndex)
    (hconnected : (after.bank.slot slot).connected = true) :
    (after.bank.slot slot).told = (before.bank.slot slot).told := by
  cases h with
  | calm hcalm _ => exact hcalm.told slot
  | reply datagram hheard _ _ _ =>
    -- The first thing heard would be a reply.
    rw [heard, heard, hevents, List.filterMap_append] at hheard
    rcases hfresh : fresh.filterMap Event.heard? with _ | ⟨latest, others⟩
    · rw [hfresh] at hheard
      have hlength := congrArg List.length hheard
      simp at hlength
    · rw [hfresh] at hheard
      obtain ⟨rfl, -⟩ := List.cons.inj hheard
      have hmem : some datagram ∈ fresh.filterMap Event.heard? := by simp [hfresh]
      obtain ⟨event, hevent, hsome⟩ := List.mem_filterMap.1 hmem
      have hnone := hreply event hevent
      unfold Event.heard? at hsome
      split at hsome
      · cases hsome
      · rw [hnone] at hsome
        cases hsome
  | outage _ _ hbank =>
    rw [hbank, Bank.slot_setReady, Bank.connected_disconnectAll] at hconnected
    cases hconnected
  | pulseEnd _ _ _ hbank => rw [hbank, Bank.slot_setReady]

theorem not_came_of_not_news {event : Event} (h : event.isNews = false) (slot : SlotIndex) :
    event ≠ .connected slot := by
  rintro rfl
  cases h

/-- Whatever is written, the count goes on. -/
theorem Writes.counted {before after : Session} (h : before.Writes after)
    (htold : ∀ fresh, after.events = fresh ++ before.events →
      (∀ event ∈ fresh, event.reply? = none) → ∀ slot, (after.bank.slot slot).connected = true →
        (after.bank.slot slot).told = (before.bank.slot slot).told)
    (hbefore : before.Counted) : after.Counted := by
  cases h with
  | plain fresh hentries hplain _ _ =>
    have hnews : ∀ event ∈ fresh.map Entry.event,
        event.reply? = none ∧ ∀ slot, event ≠ .connected slot := by
      intro event hevent
      obtain ⟨entry, hentry, rfl⟩ := List.mem_map.1 hevent
      have hnot := (hplain entry hentry).1
      exact ⟨Event.reply?_of_not_news hnot, not_came_of_not_news hnot⟩
    have hevents : after.events = fresh.map Entry.event ++ before.events := by
      rw [events_eq_map_entries, hentries, List.map_append, ← events_eq_map_entries]
    exact hbefore.of_plain hevents hnews
      (htold _ hevents fun event hevent => (hnews event hevent).1)
  | reply fresh payload hstate hentries hplain _ hbank =>
    have hreply : (Event.received payload before.peer).reply? = some (.ofPayload payload) := by
      simp [Event.reply?, hstate]
    have hevents : after.events = fresh.map Entry.event
        ++ (((before.bank.applyReply (.ofPayload payload)).1.filterMap changeEvent?).reverse
          ++ .received payload before.peer :: before.events) := by
      rw [events_eq_map_entries, events_eq_map_entries, hentries]
      simp [changeEntries, Function.comp_def]
    refine hbefore.of_reply hreply hevents ?_ hbank
    intro event hevent
    obtain ⟨entry, hentry, rfl⟩ := List.mem_map.1 hevent
    have hnot := (hplain entry hentry).1
    exact ⟨Event.reply?_of_not_news hnot, not_came_of_not_news hnot⟩

theorem Commands.counted {before after : Session} {slot : SlotIndex} {vibration : Vibration}
    (h : before.Commands slot vibration after)
    (htold : ∀ slot, (after.bank.slot slot).told = (before.bank.slot slot).told)
    (hbefore : before.Counted) : after.Counted := by
  have hevents : after.events = [.vibrationSet slot vibration] ++ before.events := by
    rw [events_eq_map_entries, h.entries, events_eq_map_entries]
    rfl
  have hnews : ∀ event ∈ [Event.vibrationSet slot vibration],
      event.reply? = none ∧ ∀ slot, event ≠ .connected slot := by
    simp [Event.reply?]
  exact hbefore.of_plain hevents hnews fun slot _ => htold slot

theorem Reachable.counted {session : Session} (h : Reachable session) : session.Counted := by
  refine Reachable.induction ?_ ?_ ?_ h
  · intro settings peer network slot hconnected
    have hbank : (launch settings peer network).bank = {} := bank_beginRound _
    rw [hbank, Bank.slot_default] at hconnected
    cases hconnected
  · intro before after hmove
    rcases hmove.writes with hwrites | ⟨slot, vibration, hcommand⟩
    · exact hwrites.counted fun fresh hevents hreply => hmove.turn.told hevents hreply
    · refine hcommand.counted fun other => ?_
      rw [hcommand.bank, Bank.setVibration, Bank.slot_modify]
      split <;> simp [Slot.told, *]
  · intro session selector
    exact (writes_nextKeystroke session selector).counted fun _ _ _ slot _ =>
      (calm_nextKeystroke session selector).told slot

/-! ## Errors -/

/-- Whether the error says that there is no exchange with the server. -/
def isUnavailable : Error → Bool
  | .unavailable _ => true
  | _ => false

/-- The error that an answer brings. -/
def answerError? : Answer → Option Error
  | .done (.error error) => some error
  | .state (.error error) => some error
  | .capabilities (.error error) => some error
  | .extendedCapabilities (.error error) => some error
  | .keystroke (.error error) => some error
  | .status (.error error) => some error
  | _ => none

/-- Only an outcome that is an error brings one. -/
theorem eq_error_of_answerError? (error : Error) :
    (∀ outcome, answerError? (.done outcome) = some error → outcome = .error error)
      ∧ (∀ outcome, answerError? (.state outcome) = some error → outcome = .error error)
      ∧ (∀ outcome, answerError? (.capabilities outcome) = some error → outcome = .error error)
      ∧ (∀ outcome, answerError? (.extendedCapabilities outcome) = some error →
        outcome = .error error)
      ∧ (∀ outcome, answerError? (.keystroke outcome) = some error → outcome = .error error)
      ∧ ∀ outcome, answerError? (.status outcome) = some error → outcome = .error error := by
  refine ⟨?_, ?_, ?_, ?_, ?_, ?_⟩ <;> rintro (other | found) herror <;>
    simp_all [answerError?]

/-- Whatever goes wrong, it is not for want of an exchange. -/
def Available {α : Type} (outcome : Option (Except Error α × Session)) : Prop :=
  ∀ error after, outcome = some (.error error, after) → isUnavailable error = false

theorem Available.map {α β : Type} {outcome : Option (Except Error α × Session)}
    (h : Available outcome) (f : α → β) :
    Available (outcome.map fun found => (found.1.map f, found.2)) := by
  intro error after hmap
  obtain ⟨⟨found, last⟩, hfound, heq⟩ := Option.map_eq_some_iff.1 hmap
  obtain ⟨herror, rfl⟩ := Prod.mk.inj heq
  rcases found with other | value
  · obtain rfl := Except.error.inj herror
    exact h other last hfound
  · cases herror

theorem not_unavailable_of_check {index : UInt32} {error : Error}
    (h : SlotIndex.check index = .error error) : isUnavailable error = false := by
  obtain ⟨-, rfl⟩ := SlotIndex.check_eq_error.1 h
  rfl

section

variable {session : Session} (h : Reachable session) (hopen : session.closing = false)

include h hopen

theorem available_lookForReady (since looks : Nat) : Available (lookForReady since looks session) := by
  induction looks generalizing session with
  | zero =>
    intro error after hlook
    cases hlook
  | succ looks ih =>
    intro error after hlook
    rw [lookForReady, h.attained.check_eq_ok hopen] at hlook
    dsimp only at hlook
    split at hlook
    · cases hlook
    · split at hlook
      · next limit _ =>
        obtain ⟨herror, -⟩ := Prod.mk.inj (Option.some.inj hlook)
        rw [← Except.error.inj herror]
        rfl
      · obtain ⟨rested, hsleep, hrest⟩ := Option.bind_eq_some_iff.1 hlook
        have hrested : rested.closing = false := by
          rw [eq_advance_of_sleep hsleep]
          exact (congrArg Setup.closing (setup_advanceTo (Nat.le_add_right _ _))).trans hopen
        exact ih (h.slept hsleep) hrested error after hrest

theorem available_askSlot {α : Type} {ask : Slot → Except Error α}
    (hask : ∀ slot error, ask slot = .error error → isUnavailable error = false) (index : UInt32) :
    Available (session.askSlot index ask) := by
  intro error after hasked
  unfold askSlot at hasked
  split at hasked
  · next other hcheck =>
    obtain ⟨herror, -⟩ := Prod.mk.inj (Option.some.inj hasked)
    rw [← Except.error.inj herror]
    exact not_unavailable_of_check hcheck
  · split at hasked
    · cases hasked
    · next other last hwait =>
      obtain ⟨herror, -⟩ := Prod.mk.inj (Option.some.inj hasked)
      rw [← Except.error.inj herror]
      exact available_lookForReady h hopen _ _ other last hwait
    · dsimp only at hasked
      split at hasked
      · obtain ⟨herror, -⟩ := Prod.mk.inj (Option.some.inj hasked)
        exact hask _ _ herror
      · obtain ⟨herror, -⟩ := Prod.mk.inj (Option.some.inj hasked)
        rw [← Except.error.inj herror]
        rfl

theorem available_extendedState (index : UInt32) : Available (session.extendedState index) :=
  available_askSlot h hopen (fun _ _ herror => by cases herror) index

theorem available_extendedCapabilities (index flags : UInt32) :
    Available (session.extendedCapabilities index flags) := by
  refine available_askSlot h hopen (fun slot error herror => ?_) index
  split at herror
  · rw [← Except.error.inj herror]
    rfl
  · cases herror

omit h hopen in
theorem error_of_refuse {index : UInt32} {feature : String} {error : Error}
    (hrefuse : session.refuse index feature = .error error) : isUnavailable error = false := by
  unfold refuse at hrefuse
  rcases hcheck : SlotIndex.check index with other | slot
  · rw [hcheck] at hrefuse
    rw [← Except.error.inj hrefuse]
    exact not_unavailable_of_check hcheck
  · simp only [hcheck, bind, Except.bind] at hrefuse
    split at hrefuse <;> rw [← Except.error.inj hrefuse] <;> rfl

omit h hopen in
theorem error_of_nextKeystroke {selector : Selector} {error : Error}
    (herror : (session.nextKeystroke selector).1 = .error error) : isUnavailable error = false := by
  unfold nextKeystroke at herror
  rcases selector with _ | index
  · cases herror
  · rcases hcheck : SlotIndex.check index with other | slot
    · simp only [selected, hcheck, Except.map] at herror
      rw [← Except.error.inj herror]
      exact not_unavailable_of_check hcheck
    · simp only [selected, hcheck, Except.map] at herror
      cases herror

omit h hopen in
theorem error_of_status {index : UInt32} {error : Error}
    (herror : session.status index = .error error) : isUnavailable error = false := by
  unfold status at herror
  rcases hcheck : SlotIndex.check index with other | slot
  · rw [hcheck] at herror
    rw [← Except.error.inj herror]
    exact not_unavailable_of_check hcheck
  · rw [hcheck] at herror
    cases herror

theorem error_of_setVibration {index : UInt32} {vibration : Vibration} {error : Error}
    (herror : (session.setVibration index vibration).1 = .error error) :
    isUnavailable error = false := by
  unfold setVibration at herror
  rcases hcheck : SlotIndex.check index with other | slot
  · simp only [hcheck] at herror
    rw [← Except.error.inj herror]
    exact not_unavailable_of_check hcheck
  · simp only [hcheck, h.attained.check_eq_ok hopen] at herror
    cases herror

/-- Nothing that a session does while it goes on fails for want of an exchange. -/
theorem available_step {step : Step} {answer : Answer} {after : Session} {error : Error}
    (hstep : session.step step = some (answer, after)) (herror : answerError? answer = some error) :
    isUnavailable error = false := by
  obtain ⟨hdone, hstate, hcapabilities, hextended, hkeystroke, hstatus⟩ :=
    eq_error_of_answerError? error
  -- A waiting query passes its own outcome on.
  have hwaited : ∀ {α : Type} {outcome : Option (Except Error α × Session)}
      (make : Except Error α → Answer),
      (∀ found, answerError? (make found) = some error → found = .error error) → Available outcome →
      outcome.map (fun found => (make found.1, found.2)) = some (answer, after) →
      isUnavailable error = false := by
    intro α outcome make hmake havailable hmap
    obtain ⟨⟨found, last⟩, hfound, heq⟩ := Option.map_eq_some_iff.1 hmap
    obtain ⟨rfl, rfl⟩ := Prod.mk.inj heq
    obtain rfl := hmake found herror
    exact havailable error last hfound
  rcases step with delivery | ms | request
  · obtain ⟨rfl, -⟩ := Prod.mk.inj (Option.some.inj hstep)
    cases herror
  · obtain ⟨rfl, -⟩ := Prod.mk.inj (Option.some.inj hstep)
    cases herror
  · replace hstep : session.answer request = some (answer, after) := hstep
    cases request with
    | state index =>
      exact hwaited _ hstate ((available_extendedState h hopen index).map _) hstep
    | extendedState index => exact hwaited _ hstate (available_extendedState h hopen index) hstep
    | capabilities index flags =>
      exact hwaited _ hcapabilities ((available_extendedCapabilities h hopen index flags).map _) hstep
    | extendedCapabilities index flags =>
      exact hwaited _ hextended (available_extendedCapabilities h hopen index flags) hstep
    | enable on =>
      obtain ⟨rfl, -⟩ := Prod.mk.inj (Option.some.inj hstep)
      cases herror
    | setVibration index vibration =>
      obtain ⟨rfl, -⟩ := Prod.mk.inj (Option.some.inj hstep)
      exact error_of_setVibration h hopen (hdone _ herror)
    | keystroke selector =>
      obtain ⟨rfl, -⟩ := Prod.mk.inj (Option.some.inj hstep)
      exact error_of_nextKeystroke (hkeystroke _ herror)
    | battery index kind =>
      obtain ⟨rfl, -⟩ := Prod.mk.inj (Option.some.inj hstep)
      exact error_of_refuse (hdone _ herror)
    | audioDevices index =>
      obtain ⟨rfl, -⟩ := Prod.mk.inj (Option.some.inj hstep)
      exact error_of_refuse (hdone _ herror)
    | status index =>
      obtain ⟨rfl, -⟩ := Prod.mk.inj (Option.some.inj hstep)
      exact error_of_status (hstatus _ herror)
    | peer =>
      obtain ⟨rfl, -⟩ := Prod.mk.inj (Option.some.inj hstep)
      cases herror

end

/-! ## Agreement -/

/-- What the queries about a slot with a controller answer, all of them at once: the same state twice,
    with the gamepad of the last state reply and the number of state replies since the controller came,
    the capabilities of every controller whatever the flags, and neither battery nor audio devices. -/
structure FindsController (session : Session) (index : UInt32) (slot : SlotIndex) : Prop where
  state : ∃ datagram state, session.lastReply? = some datagram
    ∧ state.gamepad = (datagram.block slot).gamepad
    ∧ state.packetNumber = UInt32.ofNat (session.repliesSinceConnect slot)
    ∧ session.extendedState index = some (.ok state, session)
    ∧ session.state index = some (.ok state, session)
  came : .connected slot ∈ session.events
  capabilities : ∀ flags, session.capabilities index flags = some (.ok .remote, session)
  extendedCapabilities : ∀ flags, session.extendedCapabilities index flags
    = some (.ok (.ofCapabilities .remote), session)
  battery : session.battery index = .error (.unsupported "battery information")
  audioDevices : session.audioDevices index = .error (.unsupported "audio device guids")

theorem Reachable.possible {session : Session} (h : Reachable session) (slot : SlotIndex) :
    (session.bank.slot slot).state.gamepad.Possible := by
  rw [(h.follows slot).gamepad]
  exact Feed.possible_pad _

theorem refuse_eq {session : Session} {index : UInt32} {slot : SlotIndex}
    (hslot : index.toNat = slot.val) (feature : String) : session.refuse index feature
      = .error (if (session.bank.slot slot).connected then .unsupported feature
        else .notConnected index) := by
  simp only [refuse, SlotIndex.check_eq_ok.2 hslot, bind, Except.bind]
  split <;> rfl

theorem findsController_of_connected {session : Session} (h : Reachable session)
    (hwait : session.waitReady = some (.ok (), session)) {index : UInt32} {slot : SlotIndex}
    (hslot : index.toNat = slot.val) (hconnected : (session.bank.slot slot).connected = true) :
    session.FindsController index slot := by
  have hask : ∀ {α : Type} (ask : Slot → Except Error α),
      session.askSlot index ask = some (ask (session.bank.slot slot), session) := by
    intro α ask
    rw [askSlot_of_waitReady hslot hwait, if_pos hconnected]
  have hextended : session.extendedState index = some (.ok (session.bank.slot slot).state, session) :=
    hask _
  obtain ⟨hcame, hnumber⟩ := h.counted slot hconnected
  have hpresent : Feed.present (session.feed slot) = true :=
    (h.follows slot).connected.symm.trans hconnected
  have hcapabilities : (session.bank.slot slot).capabilities = .remote := by
    rw [(h.follows slot).capabilities, if_pos hpresent]
  have hfull : ∀ flags, session.extendedCapabilities index flags
      = some (.ok (.ofCapabilities .remote), session) := by
    intro flags
    have hgamepad : ¬(flags &&& Capabilities.gamepadOnly ≠ 0
        ∧ Capabilities.remote.subType ≠ Capabilities.gamepadType) := fun hother => hother.2 rfl
    rw [extendedCapabilities, hask, hcapabilities, if_neg hgamepad]
  refine ⟨?_, hcame, fun flags => ?_, hfull, ?_, ?_⟩
  · obtain ⟨datagram, rest, hheard, hflag⟩ := h.heard_of_connected hconnected
    refine ⟨datagram, _, lastReply?_of_heard hheard, ?_, hnumber, hextended, ?_⟩
    · rw [(h.follows slot).gamepad, feed, hheard]
      exact Feed.pad_cons_of_shows hflag _
    · simp only [state, hextended, Option.map_some, Except.map, (h.possible slot).withoutGuide]
  · rw [capabilities, hfull]
    rfl
  · rw [battery, refuse_eq hslot, if_pos hconnected]
  · rw [audioDevices, refuse_eq hslot, if_pos hconnected]

/-- In a session that is ready and goes on, the queries about a slot agree on whether it has a
    controller, and no query waits. In no state of a session does a slot hold a gamepad that no block
    shows, and as long as it goes on no request fails for want of an exchange. -/
theorem queries_agree {session : Session} (h : Reachable session)
    (hopen : session.closing = false) :
    (session.bank.ready = true → ∀ (index : UInt32) (slot : SlotIndex), index.toNat = slot.val →
        ∃ status, session.status index = .ok status
          ∧ (status.connected = true → session.FindsController index slot)
          ∧ (status.connected = false → session.FindsVacant index session
            ∧ session.battery index = .error (.notConnected index)
            ∧ session.audioDevices index = .error (.notConnected index)))
      ∧ (∀ slot, (session.bank.slot slot).state.gamepad.Possible)
      ∧ ∀ step answer after error, session.step step = some (answer, after) →
        answerError? answer = some error → isUnavailable error = false := by
  refine ⟨?_, h.possible, fun step answer after error => available_step h hopen⟩
  intro hready index slot hslot
  have hwait : session.waitReady = some (.ok (), session) :=
    lookForReady_of_ready (h.attained.check_eq_ok hopen) hready
  refine ⟨session.bank.status slot, ?_, ?_, ?_⟩
  · rw [status, SlotIndex.check_eq_ok.2 hslot]
    rfl
  · exact findsController_of_connected h hwait hslot
  · intro hvacant
    have hvacant : (session.bank.slot slot).connected = false := hvacant
    refine ⟨findsVacant_of_waitReady hslot hwait hvacant, ?_, ?_⟩
    · rw [battery, refuse_eq hslot, hvacant]
      rfl
    · rw [audioDevices, refuse_eq hslot, hvacant]
      rfl

/-- A session with a controller on the first slot only. -/
def soloSession : Session :=
  openWith { handshakeWaitMs := 0 } (.v4 IPv4.localhost 0)
    { inbox := [⟨0, .payload [2, 1, 1, 0, 0, 0, 128, 128, 128, 0, 0]⟩] }

theorem queries_agree_in_soloSession :
    soloSession.FindsController 0 0 ∧ soloSession.FindsVacant 1 soloSession := by
  have hreachable : Reachable soloSession := .opened rfl rfl
  obtain ⟨hagree, -, -⟩ := queries_agree hreachable (by decide +kernel)
  have hready : soloSession.bank.ready = true := by decide +kernel
  obtain ⟨status, hstatus, hpresent, -⟩ := hagree hready 0 0 rfl
  obtain ⟨other, hother, -, hvacant⟩ := hagree hready 1 1 rfl
  have hconnected : (soloSession.status 0).toOption.map SlotStatus.connected = some true := by
    decide +kernel
  have hunconnected : (soloSession.status 1).toOption.map SlotStatus.connected = some false := by
    decide +kernel
  rw [hstatus] at hconnected
  rw [hother] at hunconnected
  exact ⟨hpresent (Option.some.inj hconnected), (hvacant (Option.some.inj hunconnected)).1⟩

end Session

end PadLink
