import PadLink.Proofs.Bank.Keys
import PadLink.Proofs.Session.Heard
import PadLink.Proofs.Wire.Keys

set_option autoImplicit false

/-! # From the wire to the held keys

A caller who asks for the keystrokes of a slot until there are none left knows which keys are held:
those that went down and have not come up. The theorem of this file says that these are the keys that
the last state reply shows for the slot, read off its bytes (`held_iff_presses`), whatever was
received, lost and asked before.

Three facts meet here. The reports are in step with the snapshots, at every step of a run
(`tallied_run`); an empty answer means that the slot's snapshot holds the keys of its gamepad; and the
gamepad of a connected slot was decoded from the last thing heard, which was a state reply. -/

namespace PadLink.Session

open Bank (Tallied)
open Keystroke (isHeld)

/-! ## The last state reply -/

/-- The state reply that was taken in last. -/
def lastReply? (session : Session) : Option Datagram := session.events.findSome? Event.reply?

theorem lastReply?_of_heard {session : Session} {datagram : Datagram}
    {rest : List (Option Datagram)} (h : session.heard = some datagram :: rest) :
    session.lastReply? = some datagram := by
  unfold heard at h
  unfold lastReply?
  -- Outages are heard as well, so the search has to stop at the first thing heard of either kind.
  generalize session.events = events at h ⊢
  induction events with
  | nil => cases h
  | cons event earlier ih =>
    have hreply : event.reply? = event.heard?.join := by
      unfold Event.heard?
      split
      · rfl
      · cases event.reply? <;> rfl
    rw [List.filterMap_cons] at h
    rw [List.findSome?_cons, hreply]
    cases hheard : event.heard? with
    | none =>
      rw [hheard] at h
      exact ih h
    | some entry =>
      rw [hheard] at h
      rw [(List.cons.inj h).1]
      rfl

/-! ## Reports and snapshots along a run -/

/-- The keystrokes that were reported in a list of answers, the latest first. -/
def reported (answers : List Answer) : List Keystroke := (answers.filterMap Answer.report?).reverse

theorem reported_cons (answer : Answer) (rest : List Answer) :
    reported (answer :: rest) = reported rest ++ answer.report?.toList := by
  unfold reported
  rw [List.filterMap_cons]
  cases answer.report? with
  | none => simp
  | some report => simp

theorem Leads.tallied {session after : Session} {reports : List Keystroke} (h : session.Leads after)
    (hsession : Tallied reports session.bank) : Tallied reports after.bank :=
  h.induction (P := fun session => Tallied reports session.bank)
    (fun _ _ hmove hbefore => hbefore.of_holds fun slot key => by rw [hmove.turn.reported slot])
    hsession

theorem tallied_nextKeystroke {session : Session} {reports : List Keystroke}
    (h : Tallied reports session.bank) (selector : Selector) :
    Tallied ((Answer.keystroke (session.nextKeystroke selector).1).report?.toList ++ reports)
      (session.nextKeystroke selector).2.bank := by
  unfold nextKeystroke
  split
  · exact h
  · next slots _ =>
    have hfirst := h.firstKeystroke slots
    dsimp only
    cases hreport : (Bank.firstKeystroke slots session.bank).1 with
    | none =>
      rw [hreport] at hfirst
      exact hfirst
    | some report =>
      rw [hreport] at hfirst
      exact hfirst

theorem tallied_step {session after : Session} {reports : List Keystroke} {step : Step}
    {answer : Answer} (h : Tallied reports session.bank)
    (hstep : session.step step = some (answer, after)) :
    Tallied (answer.report?.toList ++ reports) after.bank := by
  rcases leads_step hstep with ⟨hleads, hnone⟩ | ⟨selector, rfl, rfl⟩
  · rw [hnone]
    exact hleads.tallied h
  · exact tallied_nextKeystroke h selector

theorem tallied_run {session last : Session} {reports : List Keystroke} {steps : List Step}
    {answers : List Answer} (h : Tallied reports session.bank)
    (hrun : session.run steps = some (answers, last)) :
    Tallied (reported answers ++ reports) last.bank := by
  induction steps generalizing session reports answers with
  | nil =>
    obtain ⟨rfl, rfl⟩ := Prod.mk.inj (Option.some.inj hrun)
    exact h
  | cons step rest ih =>
    obtain ⟨answer, next, others, hstep, hrest, rfl⟩ := run_cons_eq_some.1 hrun
    rw [reported_cons, List.append_assoc]
    exact ih (tallied_step h hstep) hrest

theorem tallied_openWith {settings : Settings} {peer : SocketAddress} {network : Network}
    (hbind : network.obstacles.bind = none) (hspawn : network.obstacles.spawn = none) :
    Tallied [] (openWith settings peer network).bank := by
  rw [openWith_of_unobstructed hbind hspawn]
  have hlaunch : (launch settings peer (knock settings peer network)).bank = {} := bank_beginRound _
  refine (leads_awaitHandshake _).tallied ?_
  rw [hlaunch]
  exact Bank.tallied_default

/-! ## An empty answer -/

theorem nextKeystroke_eq_none {session after : Session} {index : UInt32} {slot : SlotIndex}
    (hslot : index.toNat = slot.val)
    (h : session.step (.request (.keystroke (.index index))) = some (.keystroke (.ok none), after)) :
    (session.bank.nextKeystroke slot).1 = none
      ∧ after = { session with bank := (session.bank.nextKeystroke slot).2 } := by
  have hselected : selected (.index index) = .ok [slot] := by
    rw [selected, SlotIndex.check_eq_ok.2 hslot]
    rfl
  obtain ⟨hanswer, hafter⟩ := Prod.mk.inj (Option.some.inj h)
  simp only [Session.nextKeystroke, hselected, Bank.firstKeystroke] at hanswer hafter
  rcases hbank : session.bank.nextKeystroke slot with ⟨found, other⟩
  rw [hbank] at hanswer hafter
  cases found with
  | none => exact ⟨rfl, hafter.symm⟩
  | some report => cases hanswer

/-- After any run of a started session, when a connected slot has no keystroke left, the keys that
    were reported down for it and not yet up are exactly those that its block of the last state reply
    shows. -/
theorem held_iff_presses {settings : Settings} {peer : SocketAddress} {network : Network}
    {steps : List Step} {answers : List Answer} {before session : Session} {index : UInt32}
    {slot : SlotIndex} (hbind : network.obstacles.bind = none)
    (hspawn : network.obstacles.spawn = none)
    (hrun : (openWith settings peer network).run steps = some (answers, before))
    (hask : before.step (.request (.keystroke (.index index)))
      = some (.keystroke (.ok none), session))
    (hslot : index.toNat = slot.val) (hconnected : (session.bank.slot slot).connected = true) :
    ∃ datagram, session.lastReply? = some datagram
      ∧ ∀ code, isHeld slot code (reported answers) = true
          ↔ ∃ key : Key, key.code = code ∧ (datagram.block slot).presses key = true := by
  obtain ⟨hnone, rfl⟩ := nextKeystroke_eq_none hslot hask
  -- The query has changed a snapshot at most, so everything is read off the session before it.
  have hreachable : Reachable before := (Reachable.opened hbind hspawn).run hrun
  have hbefore : (before.bank.slot slot).connected = true := by
    rw [← hconnected]
    show _ = ((before.bank.nextKeystroke slot).2.slot slot).connected
    rw [Bank.slot_nextKeystroke, if_pos rfl]
  obtain ⟨datagram, rest, hheard, hflag⟩ := hreachable.heard_of_connected hbefore
  have hpad : (before.bank.slot slot).state.gamepad = (datagram.block slot).gamepad := by
    rw [(hreachable.follows slot).gamepad, feed, hheard]
    exact Feed.pad_cons_of_shows hflag _
  have htally : Tallied (reported answers ++ []) before.bank :=
    tallied_run (tallied_openWith hbind hspawn) hrun
  rw [List.append_nil] at htally
  refine ⟨datagram, lastReply?_of_heard hheard, ?_⟩
  intro code
  simp only [htally.held, Bank.holds_of_nextKeystroke_none hnone, hpad, Block.holds_gamepad]

/-- A run in which the server shows one controller, with A pressed and the left stick to the left,
    and a caller asks twice. -/
def promptRun : Option (List Answer × Session) :=
  (openWith { handshakeWaitMs := 0 } (.v4 IPv4.localhost 0)
    { inbox := [⟨0, .payload [2, 1, 1, 0, 0, 0, 128, 128, 128, 0, 0]⟩] }).run
    [.request (.keystroke .any), .request (.keystroke .any)]

theorem held_after_promptRun :
    ∃ answers before session datagram, promptRun = some (answers, before)
      ∧ before.step (.request (.keystroke (.index 0))) = some (.keystroke (.ok none), session)
      ∧ (session.bank.slot 0).connected = true
      ∧ isHeld 0 (Key.button .a).code (reported answers) = true
      ∧ session.lastReply? = some datagram
      ∧ ∀ code, isHeld 0 code (reported answers) = true
          ↔ ∃ key : Key, key.code = code ∧ (datagram.block 0).presses key = true := by
  have hend : promptRun.any (fun outcome =>
      (outcome.2.nextKeystroke (.index 0)).1.toOption == some none
        && ((outcome.2.nextKeystroke (.index 0)).2.bank.slot 0).connected
        && isHeld 0 (Key.button .a).code (reported outcome.1)) = true := by
    decide +kernel
  obtain ⟨⟨answers, before⟩, hrun, hbefore⟩ := (Option.any_eq_true _ _).1 hend
  simp only [Bool.and_eq_true, beq_iff_eq] at hbefore
  obtain ⟨⟨hquiet, hconnected⟩, hpressed⟩ := hbefore
  have hask : before.step (.request (.keystroke (.index 0)))
      = some (.keystroke (.ok none), (before.nextKeystroke (.index 0)).2) := by
    rw [step, answer]
    cases hanswer : (before.nextKeystroke (.index 0)).1 with
    | error error => rw [hanswer] at hquiet; cases hquiet
    | ok report => rw [hanswer] at hquiet; cases hquiet; rfl
  obtain ⟨datagram, hlast, hheld⟩ := held_iff_presses rfl rfl hrun hask rfl hconnected
  exact ⟨answers, before, _, datagram, hrun, hask, hconnected, hpressed, hlast, hheld⟩

end PadLink.Session
