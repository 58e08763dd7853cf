import PadLink.Proofs.Session.Sends

set_option autoImplicit false

/-! # The motors

A caller commands the motors of a slot, and from then on every poll carries the command's speeds, until
the next command for that slot: controllers that come and go, outages and their pulses do not matter
(`Reachable.driven`). The journal has the commands at their places between the polls, and they are those
to which the callers got no error (`commandsOf_run`). -/

namespace PadLink

/-! ## Commands -/

/-- A slot and the speeds for its motors. -/
abbrev Command := SlotIndex × Vibration

/-- The command that an event is. -/
def Event.command? : Event → Option Command
  | vibrationSet slot vibration => some (slot, vibration)
  | _ => none

/-- The commands in a part of the journal, the latest first. -/
def commandsOf (entries : List Entry) : List Command :=
  entries.filterMap fun entry => entry.event.command?

/-- The motor speeds of a slot after commands, the latest first: those of the latest command for the
    slot, and rest if there is none. -/
def speedsAfter (commands : List Command) (slot : SlotIndex) : Vibration :=
  ((commands.find? fun command => command.1 == slot).map Prod.snd).getD {}

theorem Event.command?_of_not_news {event : Event} (h : event.isNews = false) :
    event.command? = none := by
  cases event with
  | vibrationSet slot vibration => cases h
  | _ => rfl

theorem commandsOf_append_of_none {fresh entries : List Entry}
    (h : ∀ entry ∈ fresh, entry.event.command? = none) :
    commandsOf (fresh ++ entries) = commandsOf entries := by
  have hnone : commandsOf fresh = [] := List.filterMap_eq_nil_iff.2 h
  rw [commandsOf, List.filterMap_append, ← commandsOf, hnone]
  rfl

theorem speedsAfter_cons (slot other : SlotIndex) (vibration : Vibration) (commands : List Command) :
    speedsAfter ((slot, vibration) :: commands) other
      = if other = slot then vibration else speedsAfter commands other := by
  by_cases h : other = slot
  · simp [speedsAfter, h]
  · simp [speedsAfter, h, Ne.symm h]

/-! ## What a poll carries -/

/-- The datagram is a poll with these motor speeds, scaled down to a byte each, left before right, and
    nothing behind them. -/
structure Datagram.Carries (datagram : Datagram) (speeds : SlotIndex → Vibration) : Prop where
  header : datagram[0]? = some 2
  left : ∀ slot : SlotIndex, datagram[1 + 2 * slot.val]?.map UInt8.toNat
    = some ((speeds slot).leftMotor.toNat / 257)
  right : ∀ slot : SlotIndex, datagram[2 + 2 * slot.val]?.map UInt8.toNat
    = some ((speeds slot).rightMotor.toNat / 257)
  padding : ∀ i, 9 ≤ i → i < 44 → datagram[i]? = some 0

theorem Datagram.carries_poll (bank : Bank) :
    (Datagram.poll bank.vibrations).Carries fun slot => (bank.slot slot).vibration where
  header := by simp [poll, stateHeader]
  left slot := by
    have hindex : 1 + 2 * slot.val < 44 := by omega
    have hplace : (1 + 2 * slot.val - 1) / 2 = slot.val := by omega
    have hvibration := bank.getElem_vibrations slot
    rw [← hvibration, ← toNat_encodeMotor, Vector.getElem?_eq_getElem hindex]
    simp only [poll, Vector.getElem_ofFn, hplace]
    rw [if_neg (by omega), dif_pos (by omega), if_pos (by omega)]
    rfl
  right slot := by
    have hindex : 2 + 2 * slot.val < 44 := by omega
    have hplace : (2 + 2 * slot.val - 1) / 2 = slot.val := by omega
    have hvibration := bank.getElem_vibrations slot
    rw [← hvibration, ← toNat_encodeMotor, Vector.getElem?_eq_getElem hindex]
    simp only [poll, Vector.getElem_ofFn, hplace]
    rw [if_neg (by omega), dif_pos (by omega), if_neg (by omega)]
    rfl
  padding i hbehind hi := by
    rw [Vector.getElem?_eq_getElem hi]
    simp only [poll, Vector.getElem_ofFn]
    rw [if_neg (by omega), dif_neg (by omega)]

/-! ## Polls after commands -/

/-- Every poll goes to the server and carries the speeds of the commands before it. -/
def Followed (peer : SocketAddress) : List Entry → Prop
  | [] => True
  | entry :: earlier =>
    (∀ receiver datagram, entry.event.mark? = some (.poll receiver datagram) →
      receiver = peer ∧ datagram.Carries (speedsAfter (commandsOf earlier)))
    ∧ Followed peer earlier

theorem Followed.append {peer : SocketAddress} {fresh entries : List Entry}
    (h : Followed peer entries) (hcommand : ∀ entry ∈ fresh, entry.event.command? = none)
    (hpoll : ∀ entry ∈ fresh, ∀ receiver datagram,
      entry.event.mark? = some (.poll receiver datagram) →
        receiver = peer ∧ datagram.Carries (speedsAfter (commandsOf entries))) :
    Followed peer (fresh ++ entries) := by
  induction fresh with
  | nil => exact h
  | cons entry rest ih =>
    obtain ⟨-, hrest⟩ := List.forall_mem_cons.1 hcommand
    obtain ⟨hentry, hothers⟩ := List.forall_mem_cons.1 hpoll
    refine ⟨fun receiver datagram hmark => ?_, ih hrest hothers⟩
    have hcommands : commandsOf (rest.append entries) = commandsOf entries :=
      commandsOf_append_of_none hrest
    rw [hcommands]
    exact hentry receiver datagram hmark

/-- Wherever a poll stands in the journal. -/
theorem Followed.poll {peer : SocketAddress} {later earlier : List Entry} {entry : Entry}
    (h : Followed peer (later ++ entry :: earlier)) {receiver : SocketAddress} {datagram : Datagram}
    (hmark : entry.event.mark? = some (.poll receiver datagram)) :
    receiver = peer ∧ datagram.Carries (speedsAfter (commandsOf earlier)) := by
  induction later with
  | nil => exact h.1 receiver datagram hmark
  | cons _ rest ih => exact ih h.2

namespace Session

/-- The bank has the speeds of the commands so far, and every poll had those of the commands before
    it. -/
structure Driven (session : Session) : Prop where
  bank : ∀ slot, (session.bank.slot slot).vibration = speedsAfter (commandsOf session.entries) slot
  polls : Followed session.peer session.entries

theorem vibration_of_vibrations {bank other : Bank} (h : other.vibrations = bank.vibrations)
    (slot : SlotIndex) : (other.slot slot).vibration = (bank.slot slot).vibration := by
  rw [← Bank.getElem_vibrations, h, Bank.getElem_vibrations]

/-- The exchange writes no command, and polls with the speeds as they are, which it leaves. -/
theorem Writes.uncommanded {session after : Session} (h : session.Writes after) :
    (∃ fresh, after.entries = fresh ++ session.entries
        ∧ (∀ entry ∈ fresh, entry.event.command? = none)
        ∧ ∀ entry ∈ fresh, ∀ receiver datagram,
          entry.event.mark? = some (.poll receiver datagram) →
            receiver = session.peer ∧ datagram = .poll session.bank.vibrations)
      ∧ after.peer = session.peer ∧ after.bank.vibrations = session.bank.vibrations := by
  cases h with
  | plain fresh hentries hplain hpeer hvibrations =>
    refine ⟨⟨fresh, hentries, fun entry hentry => ?_, fun entry hentry => (hplain entry hentry).2⟩,
      hpeer, hvibrations⟩
    exact Event.command?_of_not_news (hplain entry hentry).1
  | reply fresh payload _ hentries hplain hpeer hbank =>
    have haside : ∀ entry ∈ session.changeEntries after.now (.ofPayload payload)
        ++ [⟨after.now, .received payload session.peer⟩],
        entry.event.command? = none ∧ ∀ receiver datagram,
          entry.event.mark? ≠ some (.poll receiver datagram) := by
      intro entry hentry
      rcases List.mem_append.1 hentry with hentry | hentry
      · obtain ⟨event, hevent, rfl⟩ := List.mem_map.1 (List.mem_reverse.1 hentry)
        obtain ⟨change, -, hchange⟩ := List.mem_filterMap.1 hevent
        rcases changeEvent?_eq_some hchange with rfl | rfl
        · simp [Event.command?, Event.mark?]
        · simp [Event.command?, Event.mark?]
      · rw [List.mem_singleton.1 hentry]
        simp [Event.command?, Event.mark?]
    refine ⟨⟨fresh ++ (session.changeEntries after.now (.ofPayload payload)
      ++ [⟨after.now, .received payload session.peer⟩]), ?_, ?_, ?_⟩, hpeer, ?_⟩
    · simp [hentries]
    · intro entry hentry
      rcases List.mem_append.1 hentry with hentry | hentry
      · exact Event.command?_of_not_news (hplain entry hentry).1
      · exact (haside entry hentry).1
    · intro entry hentry receiver datagram hmark
      rcases List.mem_append.1 hentry with hentry | hentry
      · exact (hplain entry hentry).2 receiver datagram hmark
      · exact absurd hmark ((haside entry hentry).2 receiver datagram)
    · rw [hbank, Bank.vibrations_applyReply]

theorem Writes.commandsOf {session after : Session} (h : session.Writes after) :
    commandsOf after.entries = commandsOf session.entries := by
  obtain ⟨⟨fresh, hentries, hcommand, -⟩, -, -⟩ := h.uncommanded
  rw [hentries, commandsOf_append_of_none hcommand]

theorem Writes.driven {session after : Session} (h : session.Writes after)
    (hdriven : session.Driven) : after.Driven := by
  obtain ⟨⟨fresh, hentries, hcommand, hpoll⟩, hpeer, hvibrations⟩ := h.uncommanded
  obtain ⟨hbank, hpolls⟩ := hdriven
  constructor
  · intro slot
    rw [hentries, commandsOf_append_of_none hcommand, ← hbank slot]
    exact vibration_of_vibrations hvibrations slot
  · rw [hentries, hpeer]
    refine hpolls.append hcommand fun entry hentry receiver datagram hmark => ?_
    obtain ⟨hreceiver, rfl⟩ := hpoll entry hentry receiver datagram hmark
    refine ⟨hreceiver, ?_⟩
    rw [← funext hbank]
    exact Datagram.carries_poll session.bank

theorem Commands.driven {session after : Session} {slot : SlotIndex} {vibration : Vibration}
    (h : session.Commands slot vibration after) (hdriven : session.Driven) : after.Driven := by
  obtain ⟨hbank, hpolls⟩ := hdriven
  constructor
  · intro other
    have hcommands : commandsOf after.entries = (slot, vibration) :: commandsOf session.entries := by
      rw [h.entries]
      rfl
    rw [hcommands, speedsAfter_cons, ← hbank other, h.bank, Bank.setVibration, Bank.slot_modify]
    split
    · rfl
    · rfl
  · rw [h.entries, h.peer]
    refine ⟨fun receiver datagram hmark => ?_, hpolls⟩
    simp [Event.mark?] at hmark

/-- In the first round there is no command yet, and all motors rest. -/
theorem driven_launch (settings : Settings) (peer : SocketAddress) (network : Network) :
    (launch settings peer network).Driven
      ∧ commandsOf (launch settings peer network).entries = [] := by
  unfold launch
  dsimp only
  generalize hbefore :
    ({ settings := settings, peer := peer, timed := network.obstacles.timeout.isNone,
       network := network.note (.exchangeStarted peer), phase := .receiving none } : Session) = before
  have hentries : before.entries = [] := by
    rw [← hbefore]
    simp [entries, Network.note, Event.isStart]
  have hwrites : before.Writes before.beginRound := writes_of_journal (setup_beginRound before)
    ((keeps_plain before before.network.journal).beginRound ⟨[], rfl, by simp⟩)
  have hdriven : before.Driven := by
    constructor
    · intro slot
      rw [hentries, ← hbefore]
      simp [commandsOf, speedsAfter]
    · rw [hentries]
      trivial
  refine ⟨hwrites.driven hdriven, ?_⟩
  rw [hwrites.commandsOf, hentries]
  rfl

/-- Wherever a caller runs, the motors follow the commands. -/
theorem Reachable.driven {session : Session} (h : Reachable session) : session.Driven := by
  refine h.induction (fun settings peer network => (driven_launch settings peer network).1) ?_
    fun session selector => (writes_nextKeystroke session selector).driven
  intro before after hmove hbefore
  rcases hmove.writes with hwrites | ⟨slot, vibration, hcommands⟩
  · exact hwrites.driven hbefore
  · exact hcommands.driven hbefore

/-! ## The commands of a run -/

theorem commandsOf_wake {session : Session} {time : Nat} :
    commandsOf (session.resume time).entries = commandsOf session.entries :=
  (writes_wake (session.atTime time)).commandsOf

theorem commandsOf_follow (horizon : Nat) (enough : Session → Bool) (session : Session) :
    commandsOf (session.follow horizon enough).entries = commandsOf session.entries := by
  fun_induction follow horizon enough session with
  | case1 session hnone => rfl
  | case2 session time hwake hdue ih => rw [ih, commandsOf_wake]
  | case3 session time hwake hdue => rfl

theorem commandsOf_advanceTo (session : Session) (time : Nat) :
    commandsOf (session.advanceTo time).entries = commandsOf session.entries :=
  commandsOf_follow time _ session

theorem commandsOf_lookForReady {since looks : Nat} {session after : Session}
    {outcome : Except Error Unit} (h : lookForReady since looks session = some (outcome, after)) :
    commandsOf after.entries = commandsOf session.entries := by
  refine lookForReady_induction (P := fun after => commandsOf after.entries
    = commandsOf session.entries) (fun before after ms hsleep hbefore => ?_) h rfl
  rw [eq_advance_of_sleep hsleep, advance, commandsOf_advanceTo, hbefore]

theorem commandsOf_awaitHandshake (session : Session) :
    commandsOf session.awaitHandshake.entries = commandsOf session.entries := by
  unfold awaitHandshake
  dsimp only
  rw [← commandsOf_follow (session.now + session.settings.handshakeWait) acknowledged session]
  split
  · exact (writes_note rfl rfl).commandsOf
  · exact (writes_note rfl rfl).commandsOf

theorem commandsOf_close (session : Session) :
    commandsOf session.close.entries = commandsOf session.entries := by
  have hfinish : ∀ other : Session, commandsOf other.finishWait.entries = commandsOf other.entries := by
    intro other
    unfold finishWait
    split
    · exact commandsOf_wake
    · rfl
  have hunblock : ∀ other : Session, other.unblock.entries = other.entries := by
    intro other
    unfold unblock
    split <;> rfl
  unfold close
  split
  · rfl
  · dsimp only
    rw [hfinish, hfinish, hfinish, hunblock]
    exact (writes_note rfl rfl).commandsOf

/-- The command that a step was, if it got no error. -/
def issued? : Step × Answer → Option Command
  | (.request (.setVibration index vibration), .done (.ok ())) =>
    (SlotIndex.check index).toOption.map fun slot => (slot, vibration)
  | _ => none

/-- The commands in a run that got no error, the latest first. -/
def issued (steps : List Step) (answers : List Answer) : List Command :=
  ((steps.zip answers).filterMap issued?).reverse

theorem commandsOf_answer {session after : Session} {request : Request} {answer : Answer}
    (h : session.answer request = some (answer, after)) :
    commandsOf after.entries
      = (issued? (.request request, answer)).toList ++ commandsOf session.entries := by
  by_cases hcommand : ∃ index vibration, request = .setVibration index vibration
  · obtain ⟨index, vibration, rfl⟩ := hcommand
    obtain ⟨rfl, rfl⟩ := Prod.mk.inj (Option.some.inj h)
    rcases commands_or_eq session index vibration with ⟨slot, hslot, hdone, hcommands⟩
      | ⟨⟨error, herror⟩, heq⟩
    · have hissued : issued? (.request (.setVibration index vibration),
          .done (session.setVibration index vibration).1) = some (slot, vibration) := by
        simp only [issued?, hdone, hslot, Except.toOption, Option.map_some]
      rw [hissued, hcommands.entries]
      rfl
    · rw [heq]
      simp [issued?, herror]
  · have hnone : issued? (.request request, answer) = none := by
      cases request with
      | setVibration index vibration => exact absurd ⟨index, vibration, rfl⟩ hcommand
      | _ => rfl
    rw [hnone]
    rcases after_answer h with (rfl | ⟨found, hwait⟩) | ⟨on, -, rfl⟩
      | ⟨index, vibration, rfl, -, -⟩ | ⟨selector, -, rfl⟩
    · rfl
    · exact commandsOf_lookForReady hwait
    · rfl
    · exact absurd ⟨index, vibration, rfl⟩ hcommand
    · exact (writes_nextKeystroke session selector).commandsOf

theorem commandsOf_step {session after : Session} {step : Step} {answer : Answer}
    (h : session.step step = some (answer, after)) :
    commandsOf after.entries = (issued? (step, answer)).toList ++ commandsOf session.entries := by
  rcases step with delivery | ms | request
  · obtain ⟨rfl, rfl⟩ := Prod.mk.inj (Option.some.inj h)
    exact commandsOf_advanceTo _ _
  · obtain ⟨rfl, rfl⟩ := Prod.mk.inj (Option.some.inj h)
    exact commandsOf_advanceTo _ _
  · exact commandsOf_answer h

/-- The journal has the commands of a run that got no error. -/
theorem commandsOf_run {session last : Session} {steps : List Step} {answers : List Answer}
    (h : session.run steps = some (answers, last)) :
    commandsOf last.entries = issued steps answers ++ commandsOf session.entries := by
  induction steps generalizing session answers with
  | nil =>
    obtain ⟨rfl, rfl⟩ := Prod.mk.inj (Option.some.inj h)
    rfl
  | cons step rest ih =>
    obtain ⟨answer, next, others, hstep, hrest, rfl⟩ := run_cons_eq_some.1 h
    rw [ih hrest, commandsOf_step hstep, issued, issued, List.zip_cons_cons, List.filterMap_cons]
    rcases issued? (step, answer) with _ | command
    · rfl
    · simp

end Session

end PadLink
