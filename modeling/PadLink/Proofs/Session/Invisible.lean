import PadLink.Proofs.Session.Attained
import PadLink.Proofs.Session.Veil

set_option autoImplicit false

/-! # What a query leaves behind

Two runs of a session differ in one step: where the one asks something, the other lets time pass.
`Alike` relates such runs: what is sent and when is the same in both, and answers differ at most where
that is allowed.

A query that only waits and reads leaves the session as the same amount of time would, since it makes
no difference how time is cut into parts (`advance_answer`). A keystroke query leaves behind what the
slots remember, and a change of the enabled flags leaves these flags; both are out of sight behind a
veil, and it is enough to follow two sessions that look alike behind it (`flags_run`,
`snapshots_run`). -/

namespace PadLink

/-- Whether the request asks for something and leaves everything as it is. -/
def Request.isQuery : Request → Bool
  | enable _ | setVibration _ _ | keystroke _ => false
  | _ => true

/-- What is read off the journal entry by entry, and not off the reports, is the same without them. -/
theorem filterMap_unreported {α : Type} {f : Entry → Option α}
    (h : ∀ time report, f ⟨time, .keystroke report⟩ = none) (network : Network) :
    network.unreported.journal.filterMap f = network.journal.filterMap f := by
  rw [Network.unreported, List.filterMap_filter]
  refine congrArg (fun f => network.journal.filterMap f) (funext fun entry => ?_)
  obtain ⟨time, event⟩ := entry
  cases event with
  | keystroke report => exact (h time report).symm
  | _ => rfl

theorem attempts_unreported (network : Network) :
    attempts network.unreported.journal = attempts network.journal
      ∧ delivered network.unreported.journal = delivered network.journal :=
  ⟨congrArg List.reverse (filterMap_unreported (fun _ _ => rfl) network),
    congrArg List.reverse (filterMap_unreported (fun _ _ => rfl) network)⟩

namespace Session

/-! ## Runs side by side -/

/-- It is the same time in both sessions, and the same was sent, at the same times. -/
structure SentAlike (session other : Session) : Prop where
  now : session.now = other.now
  attempts : PadLink.attempts session.network.journal = PadLink.attempts other.network.journal
  delivered : PadLink.delivered session.network.journal = PadLink.delivered other.network.journal

/-- Runs with equally many answers, which differ only where it is allowed. What is sent is the same, also
    when the sessions are closed at the end. -/
structure RunsAlike (allowed : Nat → Answer → Answer → Prop) (found other : List Answer × Session) :
    Prop where
  length : found.1.length = other.1.length
  answers : ∀ n answer reply, found.1[n]? = some answer → other.1[n]? = some reply →
    answer ≠ reply → allowed n answer reply
  sent : SentAlike found.2 other.2
  closed : SentAlike found.2.close other.2.close

/-- Both runs come to their ends, and are alike, or neither does. -/
def Alike (allowed : Nat → Answer → Answer → Prop) :
    (found other : Option (List Answer × Session)) → Prop :=
  Option.Rel (RunsAlike allowed)

theorem alike_nil {allowed : Nat → Answer → Answer → Prop} {session other : Session}
    (hsent : SentAlike session other) (hclosed : SentAlike session.close other.close) :
    Alike allowed (session.run []) (other.run []) := by
  refine Option.Rel.some (a := ([], session)) (b := ([], other)) ⟨rfl, ?_, hsent, hclosed⟩
  intro n answer reply hanswer
  cases hanswer

theorem Alike.mono {allowed more : Nat → Answer → Answer → Prop}
    {found other : Option (List Answer × Session)} (h : Alike allowed found other)
    (hmore : ∀ n answer reply, allowed n answer reply → more n answer reply) :
    Alike more found other := by
  cases h with
  | none => exact .none
  | some halike =>
    exact .some ⟨halike.length,
      fun n answer reply hanswer hreply hne =>
        hmore n answer reply (halike.answers n answer reply hanswer hreply hne),
      halike.sent, halike.closed⟩

/-- Runs are alike if they are so from their second steps on, and the first answers may differ. -/
theorem alike_cons {allowed : Nat → Answer → Answer → Prop} {session other : Session}
    {step made : Step} {rest remaining : List Step}
    (hnone : session.step step = none ↔ other.step made = none)
    (hsome : ∀ answer after reply last, session.step step = some (answer, after) →
      other.step made = some (reply, last) → (answer ≠ reply → allowed 0 answer reply)
        ∧ Alike (fun n => allowed (n + 1)) (after.run rest) (last.run remaining)) :
    Alike allowed (session.run (step :: rest)) (other.run (made :: remaining)) := by
  rcases hstep : session.step step with _ | ⟨answer, after⟩
  · rw [run_cons_of_none hstep, run_cons_of_none (hnone.1 hstep)]
    exact .none
  · rcases hmade : other.step made with _ | ⟨reply, last⟩
    · rw [hnone.2 hmade] at hstep
      cases hstep
    · obtain ⟨hfirst, hrest⟩ := hsome _ _ _ _ hstep hmade
      rw [run_cons_of_step hstep, run_cons_of_step hmade]
      generalize after.run rest = found at hrest ⊢
      generalize last.run remaining = others at hrest ⊢
      cases hrest with
      | none => exact .none
      | some halike =>
        refine .some ⟨congrArg (· + 1) halike.length, fun n => ?_, halike.sent, halike.closed⟩
        cases n with
        | zero =>
          intro one two hone htwo
          obtain rfl := Option.some.inj hone
          obtain rfl := Option.some.inj htwo
          exact hfirst
        | succ n => exact halike.answers n

/-- Runs that begin with the same steps of one session are alike if they are so behind them. -/
theorem alike_append {allowed : Nat → Answer → Answer → Prop} {session : Session}
    {before rest remaining : List Step}
    (h : ∀ answers reached, session.run before = some (answers, reached) →
      Alike (fun n => allowed (before.length + n)) (reached.run rest) (reached.run remaining)) :
    Alike allowed (session.run (before ++ rest)) (session.run (before ++ remaining)) := by
  induction before generalizing session allowed with
  | nil => simpa using h [] session rfl
  | cons step before ih =>
    refine alike_cons Iff.rfl fun answer after reply last hstep hmade => ?_
    rw [hstep] at hmade
    obtain ⟨rfl, rfl⟩ := Prod.mk.inj (Option.some.inj hmade)
    refine ⟨fun hne => absurd rfl hne, ih fun answers reached hrun => ?_⟩
    have hlater := h (answer :: answers) reached (run_cons_eq_some.2 ⟨_, _, _, hstep, hrun, rfl⟩)
    simpa only [List.length_cons, Nat.add_right_comm] using hlater

/-! ## Queries -/

theorem Settled.step_advance_zero {session : Session} (h : session.Settled) :
    session.step (.advance 0) = some (.nothing, session) := by
  rw [Session.step, advance, Nat.add_zero, h.advanceTo_now]

/-- A wait for readiness does nothing but let time pass. -/
theorem Settled.eq_advanceTo_of_waitReady {session after : Session} {found : Except Error Unit}
    (h : session.Settled) (hwait : session.waitReady = some (found, after)) :
    ∃ time, session.now ≤ time ∧ after = session.advanceTo time := by
  refine lookForReady_induction
    (P := fun other => ∃ time, session.now ≤ time ∧ other = session.advanceTo time) ?_ hwait
    ⟨session.now, Nat.le_refl _, h.advanceTo_now.symm⟩
  rintro before rested ms hsleep ⟨time, htime, rfl⟩
  refine ⟨time + ms, Nat.le_trans htime (Nat.le_add_right _ _), ?_⟩
  rw [eq_advance_of_sleep hsleep, advance, now_advanceTo htime,
    advanceTo_advanceTo session (Nat.le_add_right time ms)]

/-- A query leaves the session as the time that it took would. -/
theorem Settled.advance_answer {session after : Session} {request : Request} {answer : Answer}
    (h : session.Settled) (hquery : request.isQuery = true)
    (hanswer : session.answer request = some (answer, after)) :
    session.advance (after.now - session.now) = after := by
  rcases after_answer hanswer with (rfl | ⟨found, hwait⟩) | ⟨on, rfl, -⟩
    | ⟨index, vibration, rfl, -, -⟩ | ⟨selector, rfl, -⟩
  · rw [Nat.sub_self, advance, Nat.add_zero, h.advanceTo_now]
  · obtain ⟨time, htime, rfl⟩ := h.eq_advanceTo_of_waitReady hwait
    rw [now_advanceTo htime, advance, Nat.add_sub_cancel' htime]
  · cases hquery
  · cases hquery
  · cases hquery

/-! ## Enabled flags -/

theorem sentAlike_of_flagVeil {session other : Session} (h : flagVeil.on session = flagVeil.on other) :
    SentAlike session other := by
  have hnetwork : session.network = other.network := congrArg (fun veiled => veiled.network) h
  exact ⟨congrArg Network.now hnetwork, by rw [hnetwork], by rw [hnetwork]⟩

/-- Sessions that differ in their enabled flags go on alike but for the reports of these flags. -/
theorem flags_run {session other : Session} (h : flagVeil.on session = flagVeil.on other)
    (steps : List Step) :
    Alike (fun _ => Answer.SameButFlag) (session.run steps) (other.run steps) := by
  induction steps generalizing session other with
  | nil =>
    have hclose : flagVeil.on session.close = flagVeil.on other.close := by
      rw [Disguise.on_close, h, Disguise.on_close]
    exact alike_nil (sentAlike_of_flagVeil h) (sentAlike_of_flagVeil hclose)
  | cons step rest ih =>
    have hagree := flags_step h step
    refine alike_cons hagree.none_iff fun answer after reply last hstep hmade => ?_
    rw [hstep, hmade] at hagree
    exact ⟨hagree.of_some.1, ih hagree.of_some.2⟩

/-! ## Snapshots -/

theorem sentAlike_of_snapshotVeil {hidden : SlotIndex → Bool} {session other : Session}
    (h : (snapshotVeil hidden).on session = (snapshotVeil hidden).on other) :
    SentAlike session other := by
  have hnetwork : session.network.unreported = other.network.unreported :=
    congrArg (fun veiled => veiled.network) h
  obtain ⟨hattempts, hdelivered⟩ := attempts_unreported session.network
  obtain ⟨htried, hsent⟩ := attempts_unreported other.network
  have hnow : session.network.unreported.now = other.network.unreported.now := by rw [hnetwork]
  refine ⟨hnow, ?_, ?_⟩
  · rw [← hattempts, hnetwork, htried]
  · rw [← hdelivered, hnetwork, hsent]

/-- The slots at which a run looks in its step at a position. Only keystroke queries look. -/
def looks (session : Session) : List Step → Nat → List SlotIndex
  | [], _ => []
  | step :: _, 0 => session.looksAt step
  | step :: rest, n + 1 =>
    match session.step step with
    | some (_, after) => after.looks rest n
    | none => []

theorem looks_succ {session after : Session} {step : Step} {answer : Answer}
    (h : session.step step = some (answer, after)) (rest : List Step) (n : Nat) :
    session.looks (step :: rest) (n + 1) = after.looks rest n := by
  rw [looks, h]

theorem looks_append {session reached : Session} {before : List Step} {answers : List Answer}
    (h : session.run before = some (answers, reached)) (rest : List Step) (n : Nat) :
    session.looks (before ++ rest) (before.length + n) = reached.looks rest n := by
  induction before generalizing session answers with
  | nil =>
    obtain ⟨-, rfl⟩ := Prod.mk.inj (Option.some.inj h)
    rw [List.nil_append, List.length_nil, Nat.zero_add]
  | cons step before ih =>
    obtain ⟨answer, next, others, hstep, hrest, -⟩ := run_cons_eq_some.1 h
    rw [List.length_cons, Nat.add_right_comm, List.cons_append, looks_succ hstep, ih hrest]

/-- At the position both runs look at a slot at which they have parted: an earlier step looked at it in
    one of them only. -/
def Revisits (looks others : Nat → List SlotIndex) (n : Nat) : Prop :=
  ∃ slot ∈ looks n, slot ∈ others n ∧ ∃ k < n, ¬(slot ∈ looks k ↔ slot ∈ others k)

/-- Sessions that differ in the snapshots of hidden slots go on alike, but for keystroke queries that
    look in both at a slot that was hidden or at which they have parted since. -/
theorem snapshots_run {hidden : SlotIndex → Bool} {session other : Session}
    (h : (snapshotVeil hidden).on session = (snapshotVeil hidden).on other) (steps : List Step) :
    Alike (fun n _ _ => ∃ slot ∈ session.looks steps n, slot ∈ other.looks steps n
        ∧ (hidden slot = true
          ∨ ∃ k < n, ¬(slot ∈ session.looks steps k ↔ slot ∈ other.looks steps k)))
      (session.run steps) (other.run steps) := by
  induction steps generalizing hidden session other with
  | nil =>
    have hclose : (snapshotVeil hidden).on session.close = (snapshotVeil hidden).on other.close := by
      rw [Disguise.on_close, h, Disguise.on_close]
    exact alike_nil (sentAlike_of_snapshotVeil h) (sentAlike_of_snapshotVeil hclose)
  | cons step rest ih =>
    have hagree := snapshots_step h step
    refine alike_cons hagree.none_iff fun answer after reply last hstep hmade => ?_
    rw [hstep, hmade] at hagree
    obtain ⟨hanswer, hon⟩ := hagree.of_some
    refine ⟨fun hne => ?_, ?_⟩
    · obtain ⟨slot, hslot, hlooks, hother⟩ := hanswer hne
      exact ⟨slot, hlooks, hother, Or.inl hslot⟩
    · refine (ih hon).mono fun n answer reply ⟨slot, hlooks, hother, hparted⟩ => ?_
      refine ⟨slot, (looks_succ hstep rest n).symm ▸ hlooks,
        (looks_succ hmade rest n).symm ▸ hother, ?_⟩
      rcases hparted with hhidden | ⟨k, hk, hdiffer⟩
      · rw [hiddenAfter, Bool.or_eq_true, bne_iff_ne] at hhidden
        exact hhidden.imp id fun hdiffer =>
          ⟨0, Nat.succ_pos n, fun hiff => hdiffer (decide_eq_decide.2 hiff)⟩
      · refine Or.inr ⟨k + 1, Nat.succ_lt_succ hk, ?_⟩
        rw [looks_succ hstep, looks_succ hmade]
        exact hdiffer

/-- A keystroke query changes the snapshots of the slots at which it looks, and nothing else. -/
theorem snapshotVeil_looksAt (session : Session) (selector : Selector) :
    (snapshotVeil (session.looked (.request (.keystroke selector)))).on
        (session.nextKeystroke selector).2
      = (snapshotVeil (session.looked (.request (.keystroke selector)))).on session := by
  rcases hselected : selected selector with error | slots
  · have hsame : session.nextKeystroke selector = (.error error, session) := by
      rw [nextKeystroke, hselected]
    rw [hsame]
  · have hlooks : session.looksAt (.request (.keystroke selector))
        = Bank.asked slots session.bank := by rw [looksAt, hselected]
    rw [(snapshotVeil_nextKeystroke _ session hselected).2]
    refine congrArg (fun bank => { (snapshotVeil _).on session with bank := bank }) ?_
    refine Bank.ext (fun slot => ?_) (Bank.ready_firstKeystroke slots session.bank)
    rw [Disguise.slot_bank, Disguise.slot_bank]
    by_cases hasked : slot ∈ Bank.asked slots session.bank
    · obtain ⟨pad, hpad⟩ := Bank.slot_firstKeystroke slots session.bank slot
      have hlooked : session.looked (.request (.keystroke selector)) slot = true :=
        decide_eq_true (hlooks ▸ hasked)
      simp [snapshotVeil, hlooked, hpad]
    · rw [Bank.slot_firstKeystroke_of_notMem hasked]

/-! ## One step replaced -/

section

variable {session : Session} (h : session.Settled) (before later : List Step)

include h

/-- A query can be replaced by the time that it took, and only its own answer is missing. -/
theorem Settled.run_query {query : Request} {answers : List Answer} {reached after : Session}
    {answer : Answer} (hquery : query.isQuery = true)
    (hbefore : session.run before = some (answers, reached))
    (hanswer : reached.answer query = some (answer, after)) :
    session.run (before ++ .advance (after.now - reached.now) :: later)
      = (session.run (before ++ .request query :: later)).map
          fun found => (found.1.set before.length .nothing, found.2) := by
  have hadvance : reached.step (.advance (after.now - reached.now)) = some (.nothing, after) := by
    rw [Session.step, (h.run hbefore).advance_answer hquery hanswer]
  have hrequest : reached.step (.request query) = some (answer, after) := hanswer
  rw [run_append, run_append, hbefore, Option.bind_some, Option.bind_some,
    run_cons_of_step hadvance, run_cons_of_step hrequest]
  cases after.run later with
  | none => rfl
  | some more => simp [← length_run hbefore]

/-- A keystroke query can be replaced by no time at all, but for what later keystroke queries find. -/
theorem Settled.run_keystroke (selector : Selector) :
    Alike (fun n _ _ => n = before.length ∨ before.length < n ∧ Revisits
        (session.looks (before ++ .request (.keystroke selector) :: later))
        (session.looks (before ++ .advance 0 :: later)) n)
      (session.run (before ++ .request (.keystroke selector) :: later))
      (session.run (before ++ .advance 0 :: later)) := by
  refine alike_append fun answers reached hbefore => alike_cons ⟨nofun, nofun⟩ ?_
  intro answer after reply last hstep hmade
  have hadvance := (h.run hbefore).step_advance_zero
  rw [hadvance] at hmade
  obtain ⟨rfl, rfl⟩ := Prod.mk.inj (Option.some.inj hmade)
  obtain ⟨rfl, rfl⟩ := Prod.mk.inj (Option.some.inj hstep)
  refine ⟨fun _ => Or.inl rfl, ?_⟩
  refine (snapshots_run (snapshotVeil_looksAt reached selector) later).mono ?_
  rintro n answer reply ⟨slot, hlooks, hother, hparted⟩
  refine Or.inr ⟨Nat.lt_add_of_pos_right (Nat.succ_pos n), slot, ?_, ?_, ?_⟩
  · rw [looks_append hbefore, looks_succ hstep]
    exact hlooks
  · rw [looks_append hbefore, looks_succ hadvance]
    exact hother
  · rcases hparted with hasked | ⟨k, hk, hdiffer⟩
    -- The replaced step looked at the slot, and time that passes does not.
    · refine ⟨before.length + 0, Nat.add_lt_add_left (Nat.succ_pos n) _, ?_⟩
      rw [looks_append hbefore, looks_append hbefore]
      intro hiff
      cases hiff.1 (of_decide_eq_true hasked)
    · refine ⟨before.length + (k + 1), Nat.add_lt_add_left (Nat.succ_lt_succ hk) _, ?_⟩
      rw [looks_append hbefore, looks_append hbefore, looks_succ hstep, looks_succ hadvance]
      exact hdiffer

/-- A change of the enabled flags can be replaced by no time at all, but for the reports of these
    flags. -/
theorem Settled.run_enable (on : Bool) :
    Alike (fun n answer reply => before.length < n ∧ answer.SameButFlag reply)
      (session.run (before ++ .request (.enable on) :: later))
      (session.run (before ++ .advance 0 :: later)) := by
  refine alike_append fun answers reached hbefore => alike_cons ⟨nofun, nofun⟩ ?_
  intro answer after reply last hstep hmade
  have hadvance := (h.run hbefore).step_advance_zero
  rw [hadvance] at hmade
  obtain ⟨rfl, rfl⟩ := Prod.mk.inj (Option.some.inj hmade)
  obtain ⟨rfl, rfl⟩ := Prod.mk.inj (Option.some.inj hstep)
  refine ⟨fun hne => absurd rfl hne, ?_⟩
  exact (flags_run (flagVeil_enable reached on) later).mono fun n _ _ hflag =>
    ⟨Nat.lt_add_of_pos_right (Nat.succ_pos n), hflag⟩

end

/-- Queries are invisible. Whatever the session, one step of a run can be replaced without a change to
    what is sent and when, from the first step to the close.

    A query that only waits and reads leaves every other answer, and the whole session, as the time that
    it took would. For a keystroke query, later keystroke queries may answer differently where they look
    at a slot at which the runs have parted before: the replaced query looked there, or a query through
    several slots came to it in one run only, having found a keystroke earlier in the other. For a
    change of the enabled flags, later reports on slots may differ in these flags. -/
theorem queries_invisible (settings : Settings) (peer : SocketAddress) (network : Network)
    (before later : List Step) :
    (∀ query answers reached answer after, query.isQuery = true →
      (openWith settings peer network).run before = some (answers, reached) →
      reached.answer query = some (answer, after) →
      (openWith settings peer network).run
          (before ++ .advance (after.now - reached.now) :: later)
        = ((openWith settings peer network).run (before ++ .request query :: later)).map
            fun found => (found.1.set before.length .nothing, found.2))
    ∧ (∀ selector, Alike
        (fun n _ _ => n = before.length ∨ before.length < n ∧ Revisits
          ((openWith settings peer network).looks (before ++ .request (.keystroke selector) :: later))
          ((openWith settings peer network).looks (before ++ .advance 0 :: later)) n)
        ((openWith settings peer network).run (before ++ .request (.keystroke selector) :: later))
        ((openWith settings peer network).run (before ++ .advance 0 :: later)))
    ∧ ∀ on, Alike (fun n answer reply => before.length < n ∧ answer.SameButFlag reply)
        ((openWith settings peer network).run (before ++ .request (.enable on) :: later))
        ((openWith settings peer network).run (before ++ .advance 0 :: later)) := by
  have hsettled := settled_openWith settings peer network
  refine ⟨?_, hsettled.run_keystroke before later, hsettled.run_enable before later⟩
  intro query answers reached answer after hquery hbefore hanswer
  exact hsettled.run_query before later hquery hbefore hanswer

deriving instance DecidableEq for Answer

/-- The answer that A went down on a slot. -/
def pressed (slot : SlotIndex) : Answer :=
  .keystroke (.ok (some ((⟨.button .a, .down⟩ : Transition).report (UInt8.ofNat slot.val))))

/-- The state of a slot after one reply with A pressed. -/
def pressedState : GamepadState where
  packetNumber := 1
  gamepad := { buttons := 0x1000, leftStick := ⟨128, 128⟩, rightStick := ⟨128, 128⟩ }

/-- A session in which the server answers only after 30 milliseconds. -/
def lateSession : Session :=
  openWith { handshakeWaitMs := 0 } (.v4 IPv4.localhost 0)
    { inbox := [⟨30, .payload [2, 1, 1, 0, 0, 128, 128, 128, 128, 0, 0]⟩] }

/-- A caller that waits for this answer spends 125 milliseconds, and another that lets them pass comes
    to the same end. -/
theorem invisible_in_lateSession :
    ∃ last,
      lateSession.run [.advance 5, .request (.state 0), .request (.keystroke .any)]
          = some ([.nothing, .state (.ok pressedState), pressed 0], last)
        ∧ lateSession.run [.advance 5, .advance 125, .request (.keystroke .any)]
          = some ([.nothing, .nothing, pressed 0], last) := by
  have htime : ((lateSession.run [.advance 5]).bind fun found =>
      (found.2.answer (.state 0)).map fun asked => asked.2.now - found.2.now) = some 125 := by
    decide +kernel
  obtain ⟨⟨answers, reached⟩, hbefore, hasked⟩ := Option.bind_eq_some_iff.1 htime
  obtain ⟨⟨answer, after⟩, hanswer, hwait⟩ := Option.map_eq_some_iff.1 hasked
  have hsame : lateSession.run
        [.advance 5, .advance (after.now - reached.now), .request (.keystroke .any)]
      = (lateSession.run [.advance 5, .request (.state 0), .request (.keystroke .any)]).map
          fun found => (found.1.set 1 .nothing, found.2) :=
    (queries_invisible _ _ _ [.advance 5] [.request (.keystroke .any)]).1 (.state 0) answers
      reached answer after rfl hbefore hanswer
  have hanswers : (lateSession.run [.advance 5, .request (.state 0), .request (.keystroke .any)]).map
      Prod.fst = some [.nothing, .state (.ok pressedState), pressed 0] := by
    decide +kernel
  obtain ⟨⟨found, last⟩, hrun, rfl⟩ := Option.map_eq_some_iff.1 hanswers
  have hms : after.now - reached.now = 125 := hwait
  rw [hms, hrun] at hsame
  exact ⟨last, hrun, hsame⟩

/-- A session with A pressed on two slots. -/
def pairSession : Session :=
  openWith { handshakeWaitMs := 0 } (.v4 IPv4.localhost 0)
    { inbox := [⟨0, .payload [2, 1, 1, 0, 0, 128, 128, 128, 128, 0, 0,
        0, 1, 1, 0, 0, 128, 128, 128, 128, 0, 0]⟩] }

/-- Keystroke queries behind another step: one of every slot, and one of the second slot. -/
def asking (first : Step) : List Step :=
  [first, .request (.keystroke .any), .request (.keystroke (.index 1))]

/-- A replaced keystroke query can change the answer for a slot at which it did not look. Here it took
    the key of the first slot, and the next query that of the second; without it the next query ends at
    the first slot, and the key of the second is still there for the last. -/
theorem unseen_slot_in_pairSession :
    pairSession.looks (asking (.request (.keystroke .any))) 0 = [0]
      ∧ (pairSession.run (asking (.request (.keystroke .any)))).map Prod.fst
        = some [pressed 0, pressed 1, .keystroke (.ok none)]
      ∧ (pairSession.run (asking (.advance 0))).map Prod.fst = some [.nothing, pressed 0, pressed 1]
      ∧ ¬Alike
        (fun n _ _ => n = 0 ∨ ∃ slot ∈ pairSession.looks (asking (.request (.keystroke .any))) 0,
          slot ∈ pairSession.looks (asking (.request (.keystroke .any))) n
            ∨ slot ∈ pairSession.looks (asking (.advance 0)) n)
        (pairSession.run (asking (.request (.keystroke .any))))
        (pairSession.run (asking (.advance 0))) := by
  have hlooks : pairSession.looks (asking (.request (.keystroke .any))) 0 = [0] := by
    decide +kernel
  have hanswers : (pairSession.run (asking (.request (.keystroke .any)))).map Prod.fst
      = some [pressed 0, pressed 1, .keystroke (.ok none)] := by
    decide +kernel
  have hreplies : (pairSession.run (asking (.advance 0))).map Prod.fst
      = some [.nothing, pressed 0, pressed 1] := by
    decide +kernel
  refine ⟨hlooks, hanswers, hreplies, fun halike => ?_⟩
  obtain ⟨found, hfound, hfirst⟩ := Option.map_eq_some_iff.1 hanswers
  obtain ⟨other, hother, hsecond⟩ := Option.map_eq_some_iff.1 hreplies
  rw [hfound, hother] at halike
  cases halike with
  | some halike =>
    -- The last answers differ, but the replaced query did not look at the second slot.
    have hlast := halike.answers 2 (.keystroke (.ok none)) (pressed 1) (by rw [hfirst]; rfl)
      (by rw [hsecond]; rfl) (by decide)
    rw [hlooks] at hlast
    revert hlast
    decide +kernel

end Session

end PadLink
