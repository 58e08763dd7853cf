import PadLink.Proofs.Monitor
import PadLink.Proofs.Session.Veil

set_option autoImplicit false

/-! # Keystrokes of any slot

A wildcard query goes through the slots in ascending order and ends at the first one that has something
to report (`asked_of_first`). There it does what a query of that slot alone does, and of the slots before
it no more than the raw axes of the snapshot follow the controller (`Slot.PassedOver`).

What is due from a slot depends on its gamepad and its snapshot, and between two queries only a state
reply writes one of these (`Turn.due`). So a caller that repeats a query hears the slots' backlog one by
one, for as long as no reply comes in, whatever else goes on meanwhile (`Repeats.backlog`). The monitor's
inner loop is such a caller, and `wildcard_drains` puts these together. -/

namespace PadLink

/-- Of the slot no more than the raw axes of its snapshot changes, and these keep their keys. -/
structure Slot.PassedOver (before after : Slot) : Prop where
  axes : ∃ left right, after
    = { before with reported := (before.reported.setStick .left left).setStick .right right }
  keys : after.reported.heldKeys = before.reported.heldKeys

namespace Bank

/-! ## One query -/

/-- The slot is the first one that has something to report. -/
def IsFirst (bank : Bank) (slot : SlotIndex) : Prop :=
  bank.pending slot ≠ [] ∧ ∀ lower < slot, bank.pending lower = []

/-- A query of a slot that has nothing to report passes over it. -/
theorem passedOver_nextKeystroke {bank : Bank} {slot : SlotIndex} (h : bank.pending slot = []) :
    (bank.slot slot).PassedOver ((bank.nextKeystroke slot).2.slot slot) := by
  obtain ⟨after, hdetect⟩ : ∃ after,
      (bank.slot slot).state.gamepad.detect (bank.slot slot).reported = (none, after) :=
    ⟨_, Prod.ext ((Gamepad.fst_detect _ _).trans (List.head?_eq_none_iff.2 h)) rfl⟩
  rw [slot_nextKeystroke, if_pos rfl, hdetect]
  obtain ⟨left, right, haxes⟩ := Gamepad.axes_of_detect_none hdetect
  exact ⟨⟨left, right, by rw [haxes]⟩,
    List.filter_congr fun key _ => (Gamepad.holds_of_detect_none hdetect key).1⟩

/-- A query looks at the slots that have nothing to report and at the first one that has something. -/
theorem asked_of_first {before rest : List SlotIndex} {slot : SlotIndex} {bank : Bank}
    (hnodup : before.Nodup) (hbefore : ∀ lower ∈ before, bank.due lower = [])
    (hslot : slot ∉ before) (hdue : bank.due slot ≠ []) :
    asked (before ++ slot :: rest) bank = before ++ [slot] := by
  induction before generalizing bank with
  | nil =>
    have hsome : (bank.due slot).head?.isSome := by simpa using hdue
    rw [List.nil_append, asked_cons, fst_nextKeystroke, if_pos hsome]
    rfl
  | cons lower before ih =>
    obtain ⟨hlower, hrest⟩ := List.nodup_cons.1 hnodup
    obtain ⟨hnone, hothers⟩ := List.forall_mem_cons.1 hbefore
    rw [List.mem_cons, not_or] at hslot
    rw [List.cons_append, asked_cons, fst_nextKeystroke, hnone, if_neg (by simp), ih hrest ?_ hslot.2 ?_]
    · rfl
    · intro other hother
      rw [due_nextKeystroke_of_ne (ne_of_mem_of_not_mem hother hlower)]
      exact hothers other hother
    · rwa [due_nextKeystroke_of_ne hslot.1]

/-- The slots before a slot, and those behind it. -/
theorem exists_all_eq_append (slot : SlotIndex) : ∃ before rest, SlotIndex.all = before ++ slot :: rest
    ∧ (∀ lower, lower ∈ before ↔ lower < slot) ∧ ∀ higher, slot < higher → higher ∉ before ++ [slot] := by
  refine ⟨SlotIndex.all.filter (· < slot), SlotIndex.all.filter (slot < ·), ?_, ?_, ?_⟩
  · revert slot
    decide
  · simp [SlotIndex.mem_all]
  · revert slot
    decide

/-- A query of all slots does to the first one that has something to report what a query of that slot
    does, and gives its report; it passes over the slots before it and does not come to those behind. -/
theorem IsFirst.firstKeystroke {bank : Bank} {slot : SlotIndex} (h : bank.IsFirst slot) :
    (firstKeystroke SlotIndex.all bank).1 = (bank.nextKeystroke slot).1
      ∧ (firstKeystroke SlotIndex.all bank).2.slot slot = (bank.nextKeystroke slot).2.slot slot
      ∧ (∀ higher, slot < higher →
        (firstKeystroke SlotIndex.all bank).2.slot higher = bank.slot higher)
      ∧ ∀ lower < slot,
        (bank.slot lower).PassedOver ((firstKeystroke SlotIndex.all bank).2.slot lower) := by
  obtain ⟨before, rest, hall, hbefore, hhigher⟩ := exists_all_eq_append slot
  have hnodup := SlotIndex.nodup_all
  have hnone : ∀ lower ∈ before, bank.due lower = [] := fun lower hlower =>
    due_eq_nil.2 (h.2 lower ((hbefore lower).1 hlower))
  have hasked : asked SlotIndex.all bank = before ++ [slot] := by
    rw [hall] at hnodup ⊢
    exact asked_of_first (List.nodup_append.1 hnodup).1 hnone (by simp [hbefore]) (mt due_eq_nil.1 h.1)
  refine ⟨?_, ?_, fun higher hlt => ?_, fun lower hlt => ?_⟩
  · have hskipped : backlog before bank = [] := backlog_eq_nil.2 hnone
    rw [fst_firstKeystroke hnodup, fst_nextKeystroke, hall, backlog, List.flatMap_append, ← backlog,
      hskipped, List.nil_append, List.flatMap_cons, List.head?_append_of_ne_nil _ (mt due_eq_nil.1 h.1)]
  · exact slot_firstKeystroke_of_mem hnodup (by simp [hasked])
  · exact slot_firstKeystroke_of_notMem (by rw [hasked]; exact hhigher higher hlt)
  · rw [slot_firstKeystroke_of_mem hnodup (by simp [hasked, hbefore, hlt])]
    exact passedOver_nextKeystroke (h.2 lower hlt)

/-- A query of all slots finds nothing just when no slot has anything to report. -/
theorem fst_firstKeystroke_eq_none {bank : Bank} : (firstKeystroke SlotIndex.all bank).1 = none
    ↔ ∀ slot, bank.pending slot = [] := by
  rw [fst_firstKeystroke (by decide), List.head?_eq_none_iff, backlog_eq_nil]
  simp only [SlotIndex.mem_all, true_imp_iff, due_eq_nil]

end Bank

namespace Session

/-! ## What is due between two queries -/

/-- The state replies since the exchange began, the latest first. -/
def replies (session : Session) : List Datagram := session.heard.filterMap id

/-- Time has passed, and callers have asked for other things than keystrokes, but no state reply has come
    in. -/
structure Undisturbed (before after : Session) : Prop where
  leads : before.Leads after
  replies : after.replies = before.replies

/-- A move brings a state reply, or leaves every slot what it has to report. -/
theorem Turn.due {before after : Session} (h : Turn before after) :
    (∃ datagram, after.replies = datagram :: before.replies)
      ∨ after.replies = before.replies ∧ ∀ slot, after.bank.due slot = before.bank.due slot := by
  cases h with
  | calm hcalm hreported =>
    refine .inr ⟨by rw [Session.replies, hcalm.heard, Session.replies], fun slot => ?_⟩
    exact Bank.due_congr (congrArg (·.2.2.gamepad) (hcalm.told slot)) (hreported slot)
  | reply datagram hheard => exact .inl ⟨datagram, by rw [Session.replies, hheard]; rfl⟩
  | outage hheard _ hbank =>
    refine .inr ⟨by rw [Session.replies, hheard]; rfl, fun slot => ?_⟩
    have hslot : after.bank.slot slot = (before.bank.slot slot).vacate := by
      rw [hbank, Bank.slot_setReady, Bank.slot_disconnectAll]
    obtain ⟨hstate, hreported, -⟩ := Slot.vacate_keeps (before.bank.slot slot)
    rw [← hslot] at hstate hreported
    exact Bank.due_congr (congrArg GamepadState.gamepad hstate) hreported
  | pulseEnd hheard _ _ hbank =>
    refine .inr ⟨by rw [Session.replies, hheard, Session.replies], fun slot => ?_⟩
    rw [hbank]
    rfl

/-- As long as no state reply comes in, nothing changes of what is due. -/
theorem Undisturbed.due {before after : Session} (h : before.Undisturbed after) (slot : SlotIndex) :
    after.bank.due slot = before.bank.due slot := by
  -- Replies only become more, so none has come in on the way if none has come in at the end.
  have hgrows : before.replies.length ≤ after.replies.length
      ∧ (after.replies.length = before.replies.length → after.bank.due slot = before.bank.due slot) := by
    refine h.leads.induction (P := fun other => before.replies.length ≤ other.replies.length
      ∧ (other.replies.length = before.replies.length → other.bank.due slot = before.bank.due slot))
      (fun other next hmove ⟨hle, hdue⟩ => ?_) ⟨Nat.le_refl _, fun _ => rfl⟩
    rcases hmove.turn.due with ⟨datagram, hreply⟩ | ⟨hsame, hkept⟩
    · rw [hreply, List.length_cons]
      exact ⟨Nat.le_succ_of_le hle, fun hlength => absurd hlength (by omega)⟩
    · rw [hsame, hkept slot]
      exact ⟨hle, hdue⟩
  exact hgrows.2 (congrArg List.length h.replies)

/-! ## Repeated queries -/

/-- A caller asks the same again and again, and meanwhile no state reply comes in. -/
def Repeats (selector : Selector) (calls : Nat → Session) : Prop :=
  ∀ n, ((calls n).nextKeystroke selector).2.Undisturbed (calls (n + 1))

/-- Each query takes one off the backlog, and nothing else does. -/
theorem Repeats.backlog {selector : Selector} {calls : Nat → Session} (h : Repeats selector calls)
    {slots : List SlotIndex} (hselected : selected selector = .ok slots) (n : Nat) :
    Bank.backlog slots (calls n).bank = (Bank.backlog slots (calls 0).bank).drop n := by
  induction n with
  | zero => rfl
  | succ n ih =>
    have hbank := (nextKeystroke_of_selected hselected (calls n)).2
    rw [Bank.backlog_congr fun slot _ => (h n).due slot, hbank,
      Bank.backlog_firstKeystroke (nodup_of_selected hselected), ih, List.tail_drop]

/-- A query of all slots finds nothing just when nothing is due from any of them. -/
theorem fst_nextKeystroke_any_eq_none {session : Session} :
    (session.nextKeystroke .any).1 = .ok none ↔ ∀ slot, session.bank.pending slot = [] := by
  rw [Monitor.fst_nextKeystroke_any, Except.ok.injEq, Bank.fst_firstKeystroke_eq_none]

/-- A query of one slot answers with the first that is due there. -/
theorem nextKeystroke_index {index : UInt32} {slot : SlotIndex} (h : index.toNat = slot.val)
    (session : Session) :
    (session.nextKeystroke (.index index)).1 = .ok (session.bank.nextKeystroke slot).1
      ∧ (session.nextKeystroke (.index index)).2.bank = (session.bank.nextKeystroke slot).2 := by
  have hselected : selected (.index index) = .ok [slot] := by
    rw [selected, SlotIndex.check_eq_ok.2 h]
    rfl
  have hone : Bank.firstKeystroke [slot] session.bank = session.bank.nextKeystroke slot := by
    rw [Bank.firstKeystroke]
    rcases session.bank.nextKeystroke slot with ⟨_ | report, after⟩ <;> rfl
  rw [← hone]
  exact nextKeystroke_of_selected hselected session

end Session

namespace Monitor

/-- A drain prints the backlog, as far as it is allowed to. -/
theorem fst_drain (count : Nat) (session : Session) : (drain count session).1
    = ((Bank.backlog SlotIndex.all session.bank).take count).map Note.keystroke := by
  induction count generalizing session with
  | zero => rfl
  | succ count ih =>
    rcases drain_cases session with ⟨hempty, -, hdrain⟩ | ⟨report, rest, hbacklog, hrest, hdrain⟩
    · rw [hdrain, hempty]
      rfl
    · rw [hdrain, hbacklog, ih, hrest]
      rfl

end Monitor

namespace Session

open Bank (backlog due)

/-- A query of all slots answers what a query of the first slot answers that has something to report,
    with the index of that slot, and nothing just when no slot has. It leaves this slot as its own query
    does, the slots behind it as they are, and of the slots before it no more than raw axes change.

    A caller that repeats a query, of all slots or of one, hears what is due from them one by one, slot
    after slot, as long as no state reply comes in. These are eighty keystrokes at most. Behind them a
    query of all slots finds nothing, and neither does one of a single slot, so the monitor's inner loop
    prints them all and ends. -/
theorem wildcard_drains (session : Session) :
    (∀ (slot : SlotIndex) (index : UInt32), index.toNat = slot.val →
        ((session.nextKeystroke (.index index)).1 = .ok none ↔ session.bank.pending slot = [])
        ∧ (session.bank.IsFirst slot →
          (session.nextKeystroke .any).1 = (session.nextKeystroke (.index index)).1
          ∧ (∃ report, (session.nextKeystroke .any).1 = .ok (some report)
            ∧ report.userIndex = slot.userIndex)
          ∧ (session.nextKeystroke .any).2.bank.slot slot
            = (session.nextKeystroke (.index index)).2.bank.slot slot
          ∧ (∀ higher, slot < higher →
            (session.nextKeystroke .any).2.bank.slot higher = session.bank.slot higher)
          ∧ ∀ lower < slot, (session.bank.slot lower).PassedOver
            ((session.nextKeystroke .any).2.bank.slot lower)))
      ∧ ((session.nextKeystroke .any).1 = .ok none ↔ ∀ slot, session.bank.pending slot = [])
      ∧ (∀ selector slots, selected selector = .ok slots →
        ∀ calls : Nat → Session, calls 0 = session → Repeats selector calls →
          ∀ n, ((calls n).nextKeystroke selector).1 = .ok (backlog slots session.bank)[n]?)
      ∧ backlog SlotIndex.all session.bank
        = due session.bank 0 ++ due session.bank 1 ++ due session.bank 2 ++ due session.bank 3
      ∧ (backlog SlotIndex.all session.bank).length ≤ 80
      ∧ (∀ calls : Nat → Session, calls 0 = session → Repeats .any calls →
        ∀ n, (backlog SlotIndex.all session.bank).length ≤ n →
          ∀ index : UInt32, index.toNat < slotCount →
            ((calls n).nextKeystroke (.index index)).1 = .ok none)
      ∧ ∀ count, (Monitor.drain count session).1
          = ((backlog SlotIndex.all session.bank).take count).map Monitor.Note.keystroke
        ∧ ((backlog SlotIndex.all session.bank).length < count →
          ((Monitor.drain count session).2.nextKeystroke .any).1 = .ok none
          ∧ ∀ more, Monitor.drain (count + more) session = Monitor.drain count session) := by
  refine ⟨fun slot index hindex => ⟨?_, fun hfirst => ?_⟩, fst_nextKeystroke_any_eq_none,
    fun selector slots hselected calls hstart hrepeats n => ?_, ?_, ?_,
    fun calls hstart hrepeats n hn index hindex => ?_, fun count => ⟨Monitor.fst_drain count session, ?_⟩⟩
  · rw [(nextKeystroke_index hindex session).1, Except.ok.injEq, Bank.fst_nextKeystroke,
      List.head?_eq_none_iff, Bank.due_eq_nil]
  · obtain ⟨hreport, hslot, hhigher, hlower⟩ := hfirst.firstKeystroke
    obtain ⟨hanswer, hbank⟩ := nextKeystroke_index hindex session
    rw [Monitor.fst_nextKeystroke_any, Monitor.bank_nextKeystroke_any, hanswer, hbank, hreport]
    refine ⟨rfl, ?_, hslot, hhigher, hlower⟩
    obtain ⟨transition, rest, hpending⟩ := List.exists_cons_of_ne_nil hfirst.1
    refine ⟨transition.report slot.userIndex, ?_, rfl⟩
    rw [Bank.fst_nextKeystroke, due, hpending]
    rfl
  · rw [(nextKeystroke_of_selected hselected _).1, Bank.fst_firstKeystroke (nodup_of_selected hselected),
      hrepeats.backlog hselected, hstart, List.head?_drop]
  · simp [backlog, SlotIndex.all]
  · rw [Bank.length_backlog]
    exact Bank.pendingCount_le SlotIndex.all session.bank
  · have hslot : index.toNat = (⟨index.toNat, hindex⟩ : SlotIndex).val := rfl
    have hselected : selected .any = .ok SlotIndex.all := rfl
    have hempty : backlog SlotIndex.all (calls n).bank = [] := by
      rw [hrepeats.backlog hselected, hstart, List.drop_of_length_le hn]
    rw [(nextKeystroke_index hslot _).1, Bank.fst_nextKeystroke,
      Bank.backlog_eq_nil.1 hempty _ (SlotIndex.mem_all _)]
    rfl
  · intro hcount
    rw [Bank.length_backlog] at hcount
    obtain ⟨hdrained, hmore⟩ := Monitor.drain_of_lt hcount
    refine ⟨?_, hmore⟩
    rw [Monitor.fst_nextKeystroke_any, (Bank.pendingCount_firstKeystroke (by decide) _).2.2 hdrained]

end Session

end PadLink
