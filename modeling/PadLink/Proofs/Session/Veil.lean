import PadLink.Proofs.Session.Disguise
import PadLink.Proofs.Session.Sends

set_option autoImplicit false

/-! # Veils over flags and snapshots

Two disguises, one for each thing that a request can change without the exchange noticing: the enabled
flags (`flagVeil`), and what some of the slots remember of the keys that were reported
(`snapshotVeil`).

Sessions that look alike behind the first veil answer alike, but for the flag in the report on a slot
(`flags_step`). Behind the second they answer alike as long as no keystroke query looks at a veiled
slot in both (`snapshots_step`). A query through several slots ends at the first that has a keystroke,
so it may look at a slot in one of the two sessions only, and such a slot is veiled from then on. -/

namespace PadLink

/-- Two reports on one slot that differ at most in the enabled flag. -/
def Answer.SameButFlag (answer other : Answer) : Prop :=
  ∃ report on, answer = .status (.ok report) ∧ other = .status (.ok { report with enabled := on })

namespace Disguise

variable (d : Disguise)

/-- Both steps come back or neither does, the sessions behind them look alike, and answers differ only
    where it is allowed. -/
def Agree (allowed : Answer → Answer → Prop) : (found other : Option (Answer × Session)) → Prop :=
  Option.Rel fun found other =>
    (found.1 ≠ other.1 → allowed found.1 other.1) ∧ d.on found.2 = d.on other.2

theorem Agree.none_iff {d : Disguise} {allowed : Answer → Answer → Prop}
    {found other : Option (Answer × Session)} (h : d.Agree allowed found other) :
    found = none ↔ other = none := by
  cases h with
  | none => exact Iff.rfl
  | some _ => exact ⟨nofun, nofun⟩

theorem Agree.of_some {d : Disguise} {allowed : Answer → Answer → Prop} {answer reply : Answer}
    {after last : Session} (h : d.Agree allowed (some (answer, after)) (some (reply, last))) :
    (answer ≠ reply → allowed answer reply) ∧ d.on after = d.on last := by
  cases h with
  | some h => exact h

/-- Sessions that look alike give the same answer to a plain step, and go on looking alike. -/
theorem agree_step {allowed : Answer → Answer → Prop} {session other : Session} {step : Step}
    (hplain : step.isPlain = true) (h : d.on session = d.on other) :
    d.Agree allowed (session.step step) (other.step step) := by
  have houtcome : d.outcome (session.step step) = d.outcome (other.step step) := by
    rw [on_step d session hplain, on_step d other hplain, h]
  rcases hfound : session.step step with _ | ⟨answer, after⟩
  · rcases hother : other.step step with _ | ⟨reply, last⟩
    · exact .none
    · rw [hfound, hother] at houtcome
      cases houtcome
  · rcases hother : other.step step with _ | ⟨reply, last⟩
    · rw [hfound, hother] at houtcome
      cases houtcome
    · rw [hfound, hother] at houtcome
      obtain ⟨hanswer, hafter⟩ := Prod.mk.inj (Option.some.inj houtcome)
      exact .some ⟨fun hne => absurd hanswer hne, hafter⟩

end Disguise

/-! ## Enabled flags -/

/-- Every enabled flag is as if no caller had ever set it. -/
def flagVeil : Disguise where
  slot _ slot := { slot with enabled := slot.connected }
  network := id
  told _ _ := rfl
  vibration _ _ := rfl
  vibrate _ _ _ := rfl
  apply _ slot block := by
    unfold Slot.apply
    dsimp only
    split
    · split <;> rfl
    · split <;> rfl
  vacate _ slot := by
    unfold Slot.vacate
    dsimp only
    split <;> rfl
  now _ := rfl
  inbox _ := rfl
  stopAt _ := rfl
  clock _ _ := rfl
  fill _ _ := rfl
  note _ _ _ _ := rfl
  poll _ _ _ := rfl

theorem flagVeil_enable (session : Session) (on : Bool) :
    flagVeil.on (session.enable on) = flagVeil.on session := by
  have hbank : flagVeil.bank (session.bank.setEnabled on) = flagVeil.bank session.bank := by
    refine Bank.ext (fun index => ?_) rfl
    rw [Disguise.slot_bank, Disguise.slot_bank, Bank.setEnabled, Bank.slot_mapSlots]
    rfl
  exact congrArg (fun bank => { session with bank := bank }) hbank

theorem flagVeil_firstKeystroke (slots : List SlotIndex) (bank : Bank) :
    Bank.firstKeystroke slots (flagVeil.bank bank)
      = ((Bank.firstKeystroke slots bank).1, flagVeil.bank (Bank.firstKeystroke slots bank).2) := by
  induction slots generalizing bank with
  | nil => rfl
  | cons index rest ih =>
    have hone : (flagVeil.bank bank).nextKeystroke index
        = ((bank.nextKeystroke index).1, flagVeil.bank (bank.nextKeystroke index).2) := by
      refine Prod.ext ?_ (Bank.ext (fun other => ?_) rfl)
      · simp only [Bank.nextKeystroke, Disguise.slot_bank]
        rfl
      · rw [Bank.slot_nextKeystroke, Disguise.slot_bank, Disguise.slot_bank, Bank.slot_nextKeystroke]
        split <;> rfl
    rw [Bank.firstKeystroke, Bank.firstKeystroke, hone]
    rcases bank.nextKeystroke index with ⟨_ | report, next⟩
    · exact ih next
    · rfl

theorem flagVeil_nextKeystroke (session : Session) (selector : Selector) :
    (flagVeil.on session).nextKeystroke selector
      = ((session.nextKeystroke selector).1, flagVeil.on (session.nextKeystroke selector).2) := by
  unfold Session.nextKeystroke
  cases Session.selected selector with
  | error error => rfl
  | ok slots =>
    have hfirst : Bank.firstKeystroke slots (flagVeil.on session).bank
        = ((Bank.firstKeystroke slots session.bank).1,
          flagVeil.bank (Bank.firstKeystroke slots session.bank).2) :=
      flagVeil_firstKeystroke slots session.bank
    dsimp only
    rw [hfirst]
    cases (Bank.firstKeystroke slots session.bank).1 <;> rfl

theorem flagVeil_status {session other : Session} (h : flagVeil.on session = flagVeil.on other)
    (index : UInt32) :
    session.status index = other.status index
      ∨ (Answer.status (session.status index)).SameButFlag (.status (other.status index)) := by
  unfold Session.status
  cases SlotIndex.check index with
  | error error => exact Or.inl rfl
  | ok slot =>
    have hslot : ({ session.bank.slot slot with enabled := (session.bank.slot slot).connected } : Slot)
        = { other.bank.slot slot with enabled := (other.bank.slot slot).connected } := by
      have hveiled : (flagVeil.on session).bank.slot slot = (flagVeil.on other).bank.slot slot := by
        rw [h]
      exact (flagVeil.slot_bank session.bank slot).symm.trans
        (hveiled.trans (flagVeil.slot_bank other.bank slot))
    obtain ⟨hconnected, -, -, -, -, hvibration⟩ := Slot.mk.inj hslot
    refine Or.inr ⟨session.bank.status slot, (other.bank.slot slot).enabled, rfl, ?_⟩
    show Answer.status (.ok (other.bank.status slot)) = _
    rw [Bank.status, Bank.status]
    dsimp only
    rw [hconnected, hvibration]

/-- What callers do with the enabled flags shows in these flags alone. -/
theorem flags_step {session other : Session} (h : flagVeil.on session = flagVeil.on other)
    (step : Step) : flagVeil.Agree Answer.SameButFlag (session.step step) (other.step step) := by
  cases step with
  | push delivery => exact flagVeil.agree_step rfl h
  | advance ms => exact flagVeil.agree_step rfl h
  | request request =>
    cases request with
    | enable on =>
      refine .some ⟨fun hne => absurd rfl hne, ?_⟩
      exact (flagVeil_enable session on).trans (h.trans (flagVeil_enable other on).symm)
    | keystroke selector =>
      have hsame : (flagVeil.on session).nextKeystroke selector
          = (flagVeil.on other).nextKeystroke selector := by rw [h]
      rw [flagVeil_nextKeystroke, flagVeil_nextKeystroke] at hsame
      obtain ⟨hanswer, hafter⟩ := Prod.mk.inj hsame
      exact .some ⟨fun hne => absurd (congrArg Answer.keystroke hanswer) hne, hafter⟩
    | status index =>
      refine .some ⟨fun hne => ?_, h⟩
      exact (flagVeil_status h index).resolve_left fun heq => hne (congrArg Answer.status heq)
    | _ => exact flagVeil.agree_step rfl h

/-! ## Snapshots -/

/-- The network without the reports of keystrokes in its journal. -/
def Network.unreported (network : Network) : Network :=
  { network with journal := network.journal.filter fun entry => !entry.event.isReport }

theorem Network.unreported_note (network : Network) {event : Event} (h : event.isReport = false) :
    (network.note event).unreported = network.unreported.note event := by
  simp only [unreported, note, List.filter_cons, h, Bool.not_false, if_true]

theorem Network.unreported_report (network : Network) (report : Keystroke) :
    (network.note (.keystroke report)).unreported = network.unreported := by
  simp only [unreported, note, List.filter_cons, Event.isReport, Bool.not_true]
  rfl

theorem Network.unreported_transmit (network : Network) (receiver : SocketAddress)
    (datagram : Datagram) {failure : String → Event} (h : ∀ reason, (failure reason).isReport = false) :
    (network.transmit receiver datagram failure).unreported
      = network.unreported.transmit receiver datagram failure := by
  refine Network.unreported_note { network with sends := network.sends + 1 } ?_
  split
  · exact h _
  · rfl

/-- The hidden slots remember no keys, and the journal does not say which keystrokes were reported. -/
def snapshotVeil (hidden : SlotIndex → Bool) : Disguise where
  slot index slot := if hidden index then { slot with reported := {} } else slot
  network := Network.unreported
  told index slot := by split <;> rfl
  vibration index slot := by split <;> rfl
  vibrate index slot vibration := by split <;> rfl
  apply index slot block := by
    split
    · unfold Slot.apply
      dsimp only
      split
      · split <;> rfl
      · split <;> rfl
    · rfl
  vacate index slot := by
    split
    · unfold Slot.vacate
      dsimp only
      split <;> rfl
    · rfl
  now _ := rfl
  inbox _ := rfl
  stopAt _ := rfl
  clock _ _ := rfl
  fill _ _ := rfl
  note network _ _ hreport := network.unreported_note hreport
  poll network _ _ := network.unreported_transmit _ _ fun _ => rfl

namespace Session

/-- The slots that a step looks at for keystrokes. -/
def looksAt (session : Session) : Step → List SlotIndex
  | .request (.keystroke selector) =>
    match selected selector with
    | .ok slots => Bank.asked slots session.bank
    | .error _ => []
  | _ => []

/-- Whether a step looks at a slot for keystrokes. -/
def looked (session : Session) (step : Step) (slot : SlotIndex) : Bool :=
  decide (slot ∈ session.looksAt step)

end Session

section

variable {hidden : SlotIndex → Bool} {session other : Session}
  (h : (snapshotVeil hidden).on session = (snapshotVeil hidden).on other)

include h

theorem slot_eq_of_snapshotVeil {slot : SlotIndex} (hslot : hidden slot = false) :
    session.bank.slot slot = other.bank.slot slot := by
  have hveiled : ((snapshotVeil hidden).bank session.bank).slot slot
      = ((snapshotVeil hidden).bank other.bank).slot slot :=
    congrArg (fun veiled => veiled.bank.slot slot) h
  simpa [Disguise.slot_bank, snapshotVeil, hslot] using hveiled

/-- A veil over more slots shows no more. -/
theorem snapshotVeil_mono {more : SlotIndex → Bool}
    (hmore : ∀ slot, hidden slot = true → more slot = true) :
    (snapshotVeil more).on session = (snapshotVeil more).on other := by
  have hslots : ∀ index slot, (snapshotVeil more).slot index ((snapshotVeil hidden).slot index slot)
      = (snapshotVeil more).slot index slot := by
    intro index slot
    cases hindex : hidden index with
    | true => simp [snapshotVeil, hindex, hmore index hindex]
    | false => simp [snapshotVeil, hindex]
  have htwice : ∀ one : Session,
      (snapshotVeil more).on ((snapshotVeil hidden).on one) = (snapshotVeil more).on one := by
    intro one
    have hbank : (snapshotVeil more).bank ((snapshotVeil hidden).bank one.bank)
        = (snapshotVeil more).bank one.bank := by
      refine Bank.ext (fun index => ?_) rfl
      rw [Disguise.slot_bank, Disguise.slot_bank, Disguise.slot_bank, hslots]
    have hnetwork : one.network.unreported.unreported = one.network.unreported := by
      simp only [Network.unreported, List.filter_filter, Bool.and_self]
    show ({ one with
      bank := (snapshotVeil more).bank ((snapshotVeil hidden).bank one.bank),
      network := one.network.unreported.unreported } : Session) = _
    rw [hbank, hnetwork]
    rfl
  rw [← htwice session, h, htwice]

theorem snapshotVeil_enable (on : Bool) :
    (snapshotVeil hidden).on (session.enable on) = (snapshotVeil hidden).on (other.enable on) := by
  have henable : ∀ one : Session, (snapshotVeil hidden).on (one.enable on)
      = ((snapshotVeil hidden).on one).enable on := by
    intro one
    have hbank : (snapshotVeil hidden).bank (one.bank.setEnabled on)
        = ((snapshotVeil hidden).bank one.bank).setEnabled on := by
      refine Bank.ext (fun index => ?_) rfl
      rw [Bank.setEnabled, Bank.setEnabled, Bank.slot_mapSlots, Disguise.slot_bank,
        Disguise.slot_bank, Bank.slot_mapSlots]
      dsimp only [snapshotVeil]
      split <;> rfl
    exact congrArg (fun bank => { (snapshotVeil hidden).on one with bank := bank }) hbank
  rw [henable, henable, h]

theorem snapshotVeil_status (index : UInt32) : session.status index = other.status index := by
  have hstatus : ∀ one : Session, ((snapshotVeil hidden).on one).status index = one.status index := by
    intro one
    have hbank : ((snapshotVeil hidden).bank one.bank).status = one.bank.status := by
      funext slot
      rw [Bank.status, Bank.status, Disguise.slot_bank]
      dsimp only [snapshotVeil]
      split <;> rfl
    exact congrArg (SlotIndex.check index).map hbank
  rw [← hstatus session, h, hstatus]

end

/-- A keystroke query through the same slots leaves the same slots behind, but for those that are
    veiled or were looked at in one session only. -/
theorem snapshotVeil_firstKeystroke {hidden : SlotIndex → Bool} {slots : List SlotIndex}
    (hnodup : slots.Nodup) {bank other : Bank}
    (h : (snapshotVeil hidden).bank bank = (snapshotVeil hidden).bank other)
    (hhidden : ∀ slot, hidden slot = false →
      bank.slot slot = other.slot slot ∧ (slot ∈ Bank.asked slots bank ↔ slot ∈ Bank.asked slots other)) :
    (snapshotVeil hidden).bank (Bank.firstKeystroke slots bank).2
      = (snapshotVeil hidden).bank (Bank.firstKeystroke slots other).2 := by
  refine Bank.ext (fun slot => ?_) ?_
  · have hslot : ((snapshotVeil hidden).bank bank).slot slot
        = ((snapshotVeil hidden).bank other).slot slot := by rw [h]
    rw [Disguise.slot_bank, Disguise.slot_bank] at hslot ⊢
    cases hcase : hidden slot with
    | true =>
      obtain ⟨pad, hpad⟩ := Bank.slot_firstKeystroke slots bank slot
      obtain ⟨last, hlast⟩ := Bank.slot_firstKeystroke slots other slot
      rw [hpad, hlast]
      simpa [snapshotVeil, hcase] using hslot
    | false =>
      obtain ⟨hsame, hasked⟩ := hhidden slot hcase
      rw [Bank.slot_firstKeystroke_congr hnodup hsame hasked]
  · have hready : ((snapshotVeil hidden).bank bank).ready = ((snapshotVeil hidden).bank other).ready :=
      by rw [h]
    show (Bank.firstKeystroke slots bank).2.ready = (Bank.firstKeystroke slots other).2.ready
    rw [Bank.ready_firstKeystroke, Bank.ready_firstKeystroke]
    exact hready

theorem nodup_of_selected {selector : Selector} {slots : List SlotIndex}
    (h : Session.selected selector = .ok slots) : slots.Nodup := by
  cases selector with
  | any =>
    obtain rfl := Except.ok.inj h
    decide
  | index index =>
    cases hcheck : SlotIndex.check index with
    | error error =>
      rw [Session.selected, hcheck] at h
      cases h
    | ok slot =>
      rw [Session.selected, hcheck] at h
      obtain rfl := Except.ok.inj h
      exact List.pairwise_singleton _ slot

/-- The hidden slots, and those at which the step looks in one of two sessions only. -/
def hiddenAfter (hidden : SlotIndex → Bool) (session other : Session) (step : Step) :
    SlotIndex → Bool := fun slot =>
  hidden slot || (session.looked step slot != other.looked step slot)

/-- Behind the keystrokes that it reports, a query leaves the bank as the detectors do. -/
theorem snapshotVeil_nextKeystroke (hidden : SlotIndex → Bool) (session : Session)
    {selector : Selector} {slots : List SlotIndex} (h : Session.selected selector = .ok slots) :
    session.nextKeystroke selector
        = (.ok (Bank.firstKeystroke slots session.bank).1, (session.nextKeystroke selector).2)
      ∧ (snapshotVeil hidden).on (session.nextKeystroke selector).2
        = { (snapshotVeil hidden).on session with
          bank := (snapshotVeil hidden).bank (Bank.firstKeystroke slots session.bank).2 } := by
  unfold Session.nextKeystroke
  rw [h]
  dsimp only
  refine ⟨rfl, ?_⟩
  cases (Bank.firstKeystroke slots session.bank).1 with
  | none => rfl
  | some report =>
    have hnetwork := session.network.unreported_report report
    show ({ session with
      bank := (snapshotVeil hidden).bank (Bank.firstKeystroke slots session.bank).2,
      network := (session.network.note (.keystroke report)).unreported } : Session) = _
    rw [hnetwork]
    rfl

theorem snapshots_nextKeystroke {hidden : SlotIndex → Bool} {session other : Session}
    (h : (snapshotVeil hidden).on session = (snapshotVeil hidden).on other) (selector : Selector) :
    ((session.nextKeystroke selector).1 = (other.nextKeystroke selector).1
      ∨ ∃ slot, hidden slot = true ∧ slot ∈ session.looksAt (.request (.keystroke selector))
        ∧ slot ∈ other.looksAt (.request (.keystroke selector)))
      ∧ (snapshotVeil (hiddenAfter hidden session other (.request (.keystroke selector)))).on
          (session.nextKeystroke selector).2
        = (snapshotVeil (hiddenAfter hidden session other (.request (.keystroke selector)))).on
          (other.nextKeystroke selector).2 := by
  generalize hmore : hiddenAfter hidden session other (.request (.keystroke selector)) = more
  have hhidden : ∀ slot, hidden slot = true → more slot = true := by
    intro slot hslot
    rw [← hmore, hiddenAfter, hslot, Bool.true_or]
  have hveiled := snapshotVeil_mono h hhidden
  rcases hselected : Session.selected selector with error | slots
  · have hsame : ∀ one : Session, one.nextKeystroke selector = (.error error, one) := by
      intro one
      rw [Session.nextKeystroke, hselected]
    rw [hsame, hsame]
    exact ⟨Or.inl rfl, hveiled⟩
  · have hlooks : ∀ one : Session,
        one.looksAt (.request (.keystroke selector)) = Bank.asked slots one.bank := by
      intro one
      rw [Session.looksAt, hselected]
    obtain ⟨hanswer, hafter⟩ := snapshotVeil_nextKeystroke more session hselected
    obtain ⟨hreply, hlast⟩ := snapshotVeil_nextKeystroke more other hselected
    have hbank : (snapshotVeil more).bank (Bank.firstKeystroke slots session.bank).2
        = (snapshotVeil more).bank (Bank.firstKeystroke slots other.bank).2 := by
      refine snapshotVeil_firstKeystroke (nodup_of_selected hselected)
        (congrArg Session.bank hveiled) fun slot hslot => ?_
      rw [← hmore, hiddenAfter, Bool.or_eq_false_iff, bne_eq_false_iff_eq, Session.looked,
        Session.looked, decide_eq_decide, hlooks, hlooks] at hslot
      exact ⟨slot_eq_of_snapshotVeil h hslot.1, hslot.2⟩
    refine ⟨?_, by rw [hafter, hlast, hveiled, hbank]⟩
    rw [hanswer, hreply, hlooks, hlooks]
    exact (Bank.firstKeystroke_eq_or_asked fun slot hslot => slot_eq_of_snapshotVeil h hslot).imp
      (congrArg Except.ok) id

/-- What a slot remembers shows only where a keystroke query looks at it. -/
theorem snapshots_step {hidden : SlotIndex → Bool} {session other : Session}
    (h : (snapshotVeil hidden).on session = (snapshotVeil hidden).on other) (step : Step) :
    (snapshotVeil (hiddenAfter hidden session other step)).Agree
      (fun _ _ => ∃ slot, hidden slot = true ∧ slot ∈ session.looksAt step
        ∧ slot ∈ other.looksAt step)
      (session.step step) (other.step step) := by
  have hveiled : (snapshotVeil (hiddenAfter hidden session other step)).on session
      = (snapshotVeil (hiddenAfter hidden session other step)).on other :=
    snapshotVeil_mono h fun slot hslot => by rw [hiddenAfter, hslot, Bool.true_or]
  cases step with
  | push delivery => exact Disguise.agree_step _ rfl hveiled
  | advance ms => exact Disguise.agree_step _ rfl hveiled
  | request request =>
    cases request with
    | enable on => exact .some ⟨fun hne => absurd rfl hne, snapshotVeil_enable hveiled on⟩
    | keystroke selector =>
      obtain ⟨hanswer, hafter⟩ := snapshots_nextKeystroke h selector
      exact .some ⟨fun hne => hanswer.resolve_left fun heq => hne (congrArg Answer.keystroke heq),
        hafter⟩
    | status index =>
      have hstatus := snapshotVeil_status h index
      exact .some ⟨fun hne => absurd (congrArg Answer.status hstatus) hne, hveiled⟩
    | _ => exact Disguise.agree_step _ rfl hveiled

end PadLink
