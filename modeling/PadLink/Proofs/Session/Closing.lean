import PadLink.Proofs.Session.Sends

set_option autoImplicit false

/-! # The end of a session

A session that is told to close goes on to the end of its round. How much of that is left depends on
where the exchange is waiting: behind a receive there can be the wait after a fault, behind that a
readiness pulse, and behind that nothing (`Phase.waitsLeft`). Every wake-up of a session that is being
closed uses up a wait (`Winds`), and what is left behind its timer fits into the time by which the
session was to end all along (`Session.endsBy`).

So the three waits that closing allows for are enough, in whatever phase it begins, and `close_ends` says
what they do: the exchange has stopped in time, it has sent nothing more, it has taken one delivery at
most, and nothing that comes later finds it again. -/

namespace PadLink

/-! ## What is left -/

namespace Phase

/-- How many waits a session that is being closed has before it, at the most. -/
def waitsLeft : Phase → Nat
  | .receiving _ => 3
  | .pacing _ => 2
  | .pulsing _ => 1
  | .absent _ | .stopped => 0

theorem waitsLeft_le (phase : Phase) : phase.waitsLeft ≤ 3 := by
  cases phase <;> simp only [waitsLeft] <;> omega

/-- How long the waits behind the present one take together, at the most. -/
def waitBehind (settings : Settings) : Phase → Nat
  | .receiving _ => settings.receiveTimeout + settings.readyPulse
  | .pacing _ => settings.readyPulse
  | .pulsing _ | .absent _ | .stopped => 0

end Phase

namespace Session

/-- The time by which a session has ended that is being closed. -/
def endsBy (session : Session) : Nat :=
  session.phase.timer.getD session.now + session.phase.waitBehind session.settings

theorem endsBy_of_stopped {session : Session} (h : session.phase = .stopped) :
    session.endsBy = session.now := by
  rw [endsBy, h]
  rfl

/-- A new round is as far from its end as a session can be. -/
theorem endsBy_of_opening {session after : Session} (hphase : after.phase = session.openingPhase)
    (hsetup : after.setup = session.setup) :
    after.endsBy ≤ after.now + 2 * after.settings.receiveTimeout + after.settings.readyPulse := by
  simp only [setup, Setup.mk.injEq] at hsetup
  obtain ⟨hsettings, -, -, -, hnow, -, -⟩ := hsetup
  rw [endsBy, hphase, openingPhase]
  split
  · simp only [Phase.timer, Phase.waitBehind, Option.getD_none]
    omega
  · rw [receivePhase, hnow, hsettings]
    split
    · simp only [Phase.timer, Phase.waitBehind, Option.getD_some]
      omega
    · simp only [Phase.timer, Phase.waitBehind, Option.getD_none]
      omega

/-- At every instant the end would be near, were the session told to close then. -/
theorem Attained.endsBy_le {session : Session} (h : Attained session) :
    session.endsBy
      ≤ session.now + 2 * session.settings.receiveTimeout + session.settings.readyPulse := by
  refine Attained.induction (P := fun session => session.endsBy
    ≤ session.now + 2 * session.settings.receiveTimeout + session.settings.readyPulse) ?_ ?_ ?_ h
  · intro settings peer network
    unfold launch
    dsimp only
    exact endsBy_of_opening (phase_beginRound _) (setup_beginRound _)
  · intro before after time _ _ hbeat hsetup _
    have hsettings : after.settings = (before.atTime time).settings := congrArg Setup.settings hsetup
    have hnow : after.now = (before.atTime time).now := congrArg Setup.now hsetup
    cases hbeat with
    | heard _ _ _ _ _ hafter => exact endsBy_of_opening hafter hsetup
    | tolerated _ _ _ hafter => exact endsBy_of_opening hafter hsetup
    | pulseEnd _ _ _ hafter => exact endsBy_of_opening hafter hsetup
    | paced _ _ _ _ _ _ hafter =>
      rw [endsBy, hafter, hnow, hsettings]
      simp only [Phase.timer, Phase.waitBehind, Option.getD_some]
      omega
    | outage _ _ _ hafter =>
      split at hafter
      · exact endsBy_of_opening hafter hsetup
      · rw [endsBy, hafter, hnow, hsettings]
        simp only [Phase.timer, Phase.waitBehind, Option.getD_some]
        omega
  · intro before after hidle hbefore
    rw [endsBy, hidle.phase, hidle.settings]
    rw [endsBy] at hbefore
    -- A session without a timer ends with its clock, and that has only moved forward.
    have hnow := hidle.now
    cases htimer : before.phase.timer with
    | none =>
      rw [htimer, Option.getD_none] at hbefore
      rw [Option.getD_none]
      omega
    | some u =>
      rw [htimer, Option.getD_some] at hbefore
      rw [Option.getD_some]
      omega

/-- Since its first round there is an exchange, though it may have ended. -/
theorem Attained.phase_ne_absent {session : Session} (h : Attained session) (reason : String) :
    session.phase ≠ .absent reason := by
  have hopening : ∀ other : Session, other.openingPhase ≠ .absent reason := by
    intro other
    unfold openingPhase
    split
    · exact Phase.noConfusion
    · exact Phase.noConfusion
  refine Attained.induction (P := fun session => session.phase ≠ .absent reason) ?_ ?_ ?_ h
  · intro settings peer network
    rw [phase_launch]
    exact Phase.noConfusion
  · intro before after time _ _ hbeat _ _
    cases hbeat with
    | heard _ _ _ _ _ hafter => rw [hafter]; exact hopening _
    | tolerated _ _ _ hafter => rw [hafter]; exact hopening _
    | pulseEnd _ _ _ hafter => rw [hafter]; exact hopening _
    | paced _ _ _ _ _ _ hafter => rw [hafter]; exact Phase.noConfusion
    | outage _ _ _ hafter =>
      rw [hafter]
      split
      · exact hopening _
      · exact Phase.noConfusion
  · intro before after hidle hbefore
    rw [hidle.phase]
    exact hbefore

/-! ## One wait -/

/-- A session that is being closed has used up a wait, and took no more than one delivery if that was a
    receive. -/
structure Winds (session after : Session) : Prop where
  closing : after.closing = session.closing
  timed : after.timed = session.timed
  waits : after.phase.waitsLeft ≤ session.phase.waitsLeft - 1
  ends : after.endsBy ≤ session.endsBy
  inbox : after.network.inbox = session.network.inbox
    ∨ session.phase.waitsLeft = 3 ∧ after.network.inbox = session.network.inbox.tail

/-- A failure comes out of a receive or of the wait after a fault. -/
theorem Fails.waits {session : Session} {failed : List (Nat × Mark)} {inbox : List Arrival}
    (h : session.Fails failed inbox) :
    2 ≤ session.phase.waitsLeft
      ∧ session.settings.readyPulse ≤ session.phase.waitBehind session.settings
      ∧ (inbox = session.network.inbox
        ∨ session.phase.waitsLeft = 3 ∧ inbox = session.network.inbox.tail) := by
  cases h with
  | silent hphase =>
    rw [hphase]
    exact ⟨Nat.le_succ 2, Nat.le_add_left _ _, Or.inr ⟨rfl, rfl⟩⟩
  | expired hphase =>
    rw [hphase]
    exact ⟨Nat.le_succ 2, Nat.le_add_left _ _, Or.inl rfl⟩
  | rested hphase =>
    rw [hphase]
    exact ⟨Nat.le_refl 2, Nat.le_refl _, Or.inl rfl⟩

theorem Beat.winds {session after : Session} (h : Beat session after)
    (hclosing : session.closing = true) (hsetup : after.setup = session.setup)
    (hprompt : ∀ u ∈ session.phase.timer, session.now ≤ u) : session.Winds after := by
  have hnow : after.now = session.now := congrArg Setup.now hsetup
  have hsettings : after.settings = session.settings := congrArg Setup.settings hsetup
  have hopening : session.openingPhase = .stopped := by rw [openingPhase, hclosing, if_pos rfl]
  have htimer : session.now ≤ session.phase.timer.getD session.now := by
    cases hcase : session.phase.timer with
    | none => exact Nat.le_refl _
    | some u => exact hprompt u hcase
  -- Instead of a new round comes the end, and that is in time whatever the phase was.
  have hstop : after.phase = .stopped → after.phase.waitsLeft ≤ session.phase.waitsLeft - 1
      ∧ after.endsBy ≤ session.endsBy := by
    intro hafter
    rw [endsBy_of_stopped hafter, hnow, hafter, endsBy]
    exact ⟨Nat.zero_le _, Nat.le_trans htimer (Nat.le_add_right _ _)⟩
  suffices hrest : (after.phase.waitsLeft ≤ session.phase.waitsLeft - 1
      ∧ after.endsBy ≤ session.endsBy) ∧ (after.network.inbox = session.network.inbox
        ∨ session.phase.waitsLeft = 3 ∧ after.network.inbox = session.network.inbox.tail) from
    ⟨congrArg Setup.closing hsetup, congrArg Setup.timed hsetup, hrest.1.1, hrest.1.2, hrest.2⟩
  cases h with
  | heard hphase _ _ _ _ hafter _ hinbox =>
    exact ⟨hstop (hafter.trans hopening), Or.inr ⟨by rw [hphase]; rfl, hinbox⟩⟩
  | pulseEnd _ _ _ hafter _ hinbox => exact ⟨hstop (hafter.trans hopening), Or.inl hinbox⟩
  | tolerated hfails _ _ hafter _ hinbox =>
    obtain ⟨-, -, hmissing⟩ := hfails.waits
    rw [← hinbox] at hmissing
    exact ⟨hstop (hafter.trans hopening), hmissing⟩
  | paced hphase _ _ _ _ _ hafter _ hinbox =>
    refine ⟨⟨?_, ?_⟩, Or.inr ⟨by rw [hphase]; rfl, hinbox⟩⟩
    · rw [hafter, hphase]
      exact Nat.le_refl 2
    · rw [endsBy, endsBy, hafter, hsettings]
      rw [hphase] at htimer ⊢
      simp only [Phase.timer, Phase.waitBehind, Option.getD_some] at htimer ⊢
      omega
  | outage hfails _ _ hafter _ hinbox =>
    obtain ⟨hwaits, hbehind, hmissing⟩ := hfails.waits
    rw [← hinbox] at hmissing
    refine ⟨?_, hmissing⟩
    split at hafter
    · exact hstop (hafter.trans hopening)
    · refine ⟨Nat.le_sub_one_of_lt ?_, ?_⟩
      · rw [hafter]
        exact hwaits
      · rw [endsBy, endsBy, hafter]
        show session.now + session.settings.readyPulse ≤ _
        exact Nat.add_le_add htimer hbehind

/-- With timeouts, either there is nothing to wait for any more, or a timer runs. -/
theorem Attained.over_or_timer {session : Session} (h : Attained session)
    (htimed : session.timed = true) :
    session.phase.waitsLeft = 0 ∧ session.nextWake = none
      ∨ ∃ u time, session.phase.timer = some u ∧ session.nextWake = some time := by
  have hwait : ∀ u, session.phase.timer = some u →
      ∃ u time, session.phase.timer = some u ∧ session.nextWake = some time := by
    intro u hu
    obtain ⟨time, hwake, -⟩ := exists_nextWake_le hu
    exact ⟨u, time, hu, hwake⟩
  cases hphase : session.phase with
  | absent reason => exact Or.inl ⟨rfl, by rw [nextWake, hphase]; rfl⟩
  | stopped => exact Or.inl ⟨rfl, by rw [nextWake, hphase]; rfl⟩
  | pacing u => exact Or.inr (hphase ▸ hwait u (by rw [hphase]; rfl))
  | pulsing u => exact Or.inr (hphase ▸ hwait u (by rw [hphase]; rfl))
  | receiving deadline =>
    obtain ⟨u, rfl⟩ := h.deadline htimed hphase
    exact Or.inr (hphase ▸ hwait u (by rw [hphase]; rfl))

theorem Attained.finishWait {session : Session} (h : Attained session) :
    Attained session.finishWait :=
  (leads_finishWait session).induction (fun _ _ hmove hbefore => hbefore.moved hmove) h

/-- Going on at the next wake-up uses up a wait, if there is one. -/
theorem Attained.winds_finishWait {session : Session} (h : Attained session)
    (hclosing : session.closing = true) (htimed : session.timed = true) :
    session.Winds session.finishWait := by
  unfold Session.finishWait
  rcases h.over_or_timer htimed with ⟨hover, hnone⟩ | ⟨u, time, hu, hwake⟩
  · rw [hnone]
    exact ⟨rfl, rfl, Nat.le_trans (Nat.le_of_eq hover) (Nat.zero_le _), Nat.le_refl _, Or.inl rfl⟩
  · rw [hwake]
    obtain ⟨_, _, hwaits, hends, hinbox⟩ := (beat_resume hwake).winds hclosing (setup_resume _ _)
      (h.now_atTime_le hwake)
    have hclock : (session.atTime time).endsBy = session.endsBy := by
      have hphase : (session.atTime time).phase = session.phase := rfl
      have hsettings : (session.atTime time).settings = session.settings := rfl
      rw [endsBy, endsBy, hphase, hsettings, hu]
      rfl
    have hsetup := setup_resume session time
    exact ⟨congrArg Setup.closing hsetup, congrArg Setup.timed hsetup, hwaits,
      Nat.le_trans hends (Nat.le_of_eq hclock), hinbox⟩

/-- Three waits are enough, and only the first can be a receive. -/
theorem Attained.winds_finishWaits {session : Session} (h : Attained session)
    (hclosing : session.closing = true) (htimed : session.timed = true) :
    session.finishWait.finishWait.finishWait.phase.waitsLeft = 0
      ∧ session.finishWait.finishWait.finishWait.endsBy ≤ session.endsBy
      ∧ (session.finishWait.finishWait.finishWait.network.inbox = session.network.inbox
        ∨ session.finishWait.finishWait.finishWait.network.inbox = session.network.inbox.tail) := by
  have hfirst := h.winds_finishWait hclosing htimed
  have hsecond := h.finishWait.winds_finishWait (hfirst.closing.trans hclosing)
    (hfirst.timed.trans htimed)
  have hthird := h.finishWait.finishWait.winds_finishWait
    (hsecond.closing.trans (hfirst.closing.trans hclosing))
    (hsecond.timed.trans (hfirst.timed.trans htimed))
  have hmost := session.phase.waitsLeft_le
  have hone := hfirst.waits
  have htwo := hsecond.waits
  have hthree := hthird.waits
  refine ⟨by omega, Nat.le_trans hthird.ends (Nat.le_trans hsecond.ends hfirst.ends), ?_⟩
  have hlater : session.finishWait.finishWait.finishWait.network.inbox
      = session.finishWait.network.inbox := by
    rcases hsecond.inbox with hbefore | ⟨hwaits, -⟩
    · rcases hthird.inbox with hsame | ⟨hwaits, -⟩
      · exact hsame.trans hbefore
      · omega
    · omega
  rw [hlater]
  exact hfirst.inbox.imp id And.right

/-! ## Nothing more is sent -/

/-- Nothing was sent, nor was it tried. -/
structure Mute (network after : Network) : Prop where
  sends : after.sends = network.sends
  attempts : PadLink.attempts after.journal = PadLink.attempts network.journal
  delivered : PadLink.delivered after.journal = PadLink.delivered network.journal

/-- A session that is being closed does not poll, and nothing else is sent by an exchange. -/
theorem keeps_mute {session : Session} (hclosing : session.closing = true) (network : Network) :
    session.Keeps (fun event => event.isSend = false) (Mute network) where
  plain _ _ hsend _ := hsend
  note other event hsend := by
    rintro ⟨hsends, hattempts, hdelivered⟩
    obtain ⟨hnoted, hsent⟩ := attempts_note other event hsend
    exact ⟨hsends, hnoted.trans hattempts, hsent.trans hdelivered⟩
  poll hopen := by
    have hsame : session.closing = false := hopen
    rw [hclosing] at hsame
    cases hsame
  inbox _ _ h := ⟨h.sends, h.attempts, h.delivered⟩
  clock _ _ h := ⟨h.sends, h.attempts, h.delivered⟩

theorem mute_finishWait {session : Session} (hclosing : session.closing = true) {network : Network}
    (h : Mute network session.network) : Mute network session.finishWait.network := by
  unfold finishWait
  split
  · next time _ =>
    have hclock : (session.atTime time).closing = true := hclosing
    refine (keeps_mute hclock network).wake ⟨h.sends, h.attempts, h.delivered⟩ ?_
    intro _ _ _ _ _ _ _ _ _ hsend _ _
    exact hsend
  · exact h

/-! ## Closing -/

/-- With timeouts every receive ends by itself. -/
theorem Attained.unblock_eq {session : Session} (h : Attained session)
    (htimed : session.timed = true) : session.unblock = session := by
  unfold unblock
  split
  · next deadline hphase hnone =>
    rcases h.over_or_timer htimed with ⟨hover, -⟩ | ⟨u, time, -, hwake⟩
    · rw [hphase] at hover
      cases hover
    · rw [hnone] at hwake
      cases hwake
  · rfl

/-- A session that has ended has no wake-ups, so time and deliveries pass it by. -/
theorem run_of_stopped {session : Session} (h : session.phase = .stopped) {steps : List Step}
    (hsteps : ∀ request, .request request ∉ steps) :
    ∃ answers last, session.run steps = some (answers, last) ∧ last.phase = .stopped
      ∧ last.bank = session.bank ∧ last.network.journal = session.network.journal := by
  have hpass : ∀ (other : Session) (time : Nat), other.phase = .stopped →
      other.advanceTo time = other.atTime time := by
    intro other time hphase
    refine advanceTo_of_later fun wake hwake => ?_
    rw [nextWake, hphase] at hwake
    cases hwake
  induction steps generalizing session with
  | nil => exact ⟨[], session, rfl, h, rfl, rfl⟩
  | cons step rest ih =>
    obtain ⟨next, hstep, hphase, hbank, hjournal⟩ : ∃ next,
        session.step step = some (.nothing, next) ∧ next.phase = .stopped
          ∧ next.bank = session.bank ∧ next.network.journal = session.network.journal := by
      cases step with
      | push delivery =>
        refine ⟨session.push delivery, rfl, ?_⟩
        rw [push, advance, hpass { session with network := session.network.deliver delivery } _ h]
        exact ⟨h, rfl, rfl⟩
      | advance ms =>
        refine ⟨session.advance ms, rfl, ?_⟩
        rw [advance, hpass _ _ h]
        exact ⟨h, rfl, rfl⟩
      | request request => exact absurd List.mem_cons_self (hsteps request)
    obtain ⟨answers, last, hrun, hlast, hsame, hsilent⟩ :=
      ih hphase fun request hmem => hsteps request (List.mem_cons_of_mem _ hmem)
    exact ⟨.nothing :: answers, last, run_cons_eq_some.2 ⟨_, _, _, hstep, hrun, rfl⟩, hlast,
      hsame.trans hbank, hsilent.trans hjournal⟩

/-- Wherever a session with timeouts is closed, it has ended within two receives and a pulse. From then
    on nothing is sent, one delivery at most is taken, and what else is under way or still comes changes
    nothing any more. -/
theorem close_ends {session : Session} (h : Reachable session) (htimed : session.timed = true) :
    session.close.phase = .stopped
      ∧ session.close.now
        ≤ session.now + 2 * session.settings.receiveTimeout + session.settings.readyPulse
      ∧ session.close.network.sends = session.network.sends
      ∧ attempts session.close.network.journal = attempts session.network.journal
      ∧ (session.close.network.inbox = session.network.inbox
        ∨ session.close.network.inbox = session.network.inbox.tail)
      ∧ ∀ steps, (∀ request, .request request ∉ steps) →
        ∃ answers last, session.close.run steps = some (answers, last)
          ∧ last.bank = session.close.bank
          ∧ last.network.journal = session.close.network.journal := by
  generalize htold : ({ session.note .closing with closing := true } : Session) = told
  have hattained : Attained told := by
    rw [← htold]
    exact h.attained.moved .tell
  have hclosing : told.closing = true := by rw [← htold]
  have htimeout : told.timed = true := by
    rw [← htold]
    exact htimed
  have hmute : Mute session.network told.network := by
    obtain ⟨hattempts, hdelivered⟩ := attempts_note session.network .closing rfl
    rw [← htold]
    exact ⟨rfl, hattempts, hdelivered⟩
  -- Closing is nothing but the three waits.
  have hclose : session.close = told.finishWait.finishWait.finishWait := by
    unfold close
    split
    · next reason hphase => exact absurd hphase (h.attained.phase_ne_absent reason)
    · dsimp only
      rw [htold, hattained.unblock_eq htimeout]
  have hlater : told.finishWait.closing = true := (leads_finishWait told).closing hclosing
  have hsent := mute_finishWait ((leads_finishWait _).closing hlater)
    (mute_finishWait hlater (mute_finishWait hclosing hmute))
  obtain ⟨hover, hends, hinbox⟩ := hattained.winds_finishWaits hclosing htimeout
  rw [← hclose] at hsent hover hends hinbox
  have hstopped : session.close.phase = .stopped := by
    cases hphase : session.close.phase with
    | stopped => rfl
    | absent reason => exact absurd hphase (h.closed.attained.phase_ne_absent reason)
    | receiving deadline => rw [hphase] at hover; cases hover
    | pacing time => rw [hphase] at hover; cases hover
    | pulsing time => rw [hphase] at hover; cases hover
  refine ⟨hstopped, ?_, hsent.sends, hsent.attempts, ?_, fun steps hsteps => ?_⟩
  · rw [← endsBy_of_stopped hstopped]
    refine Nat.le_trans hends ?_
    rw [← htold]
    exact h.attained.endsBy_le
  · rw [← htold] at hinbox
    exact hinbox
  · obtain ⟨answers, last, hrun, -, hbank, hjournal⟩ := run_of_stopped hstopped hsteps
    exact ⟨answers, last, hrun, hbank, hjournal⟩

/-- A session that tolerates no failure, with a fault under way that comes at the very end of its first
    receive and a state reply right behind it. -/
def resetSession : Session :=
  openWith { handshakeWaitMs := 0, toleratedTimeouts := 0 } (.v4 IPv4.localhost 0)
    { inbox := [⟨2000, .fault .connectionReset⟩,
        ⟨2000, .payload [2, 1, 1, 0, 0, 0, 128, 128, 128, 0, 0]⟩] }

/-- Closed at its beginning it takes all the time there is, and the reply is never received. -/
theorem close_ends_resetSession :
    resetSession.close.phase = .stopped ∧ resetSession.now = 0 ∧ resetSession.close.now = 4250
      ∧ resetSession.now + 2 * resetSession.settings.receiveTimeout
        + resetSession.settings.readyPulse = 4250
      ∧ attempts resetSession.close.network.journal = attempts resetSession.network.journal
      ∧ resetSession.close.network.inbox.length = 1
      ∧ ∃ answers last, resetSession.close.run [.advance 1000, .push (.payload [1])]
          = some (answers, last)
        ∧ last.bank = resetSession.close.bank := by
  obtain ⟨hstopped, -, -, hattempts, -, hlater⟩ :=
    close_ends (.opened rfl rfl : Reachable resetSession) (by decide +kernel)
  obtain ⟨answers, last, hrun, hbank, -⟩ :=
    hlater [.advance 1000, .push (.payload [1])] (by simp)
  exact ⟨hstopped, by decide +kernel, by decide +kernel, by decide +kernel, hattempts,
    by decide +kernel, answers, last, hrun, hbank⟩

end Session

end PadLink
