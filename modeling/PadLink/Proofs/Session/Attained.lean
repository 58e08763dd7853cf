import PadLink.Proofs.Session.Rounds

set_option autoImplicit false

/-! # The exchange at every instant

A caller runs at some instants only, and between two of these the exchange may go round many times.
`Attained` are the sessions at all of them. `Attained.induction` shows a property of these by two case
analyses: what a beat does (`Beat`), and that anything else leaves the exchange as it is (`Idle`).

The first facts shown so are about the timer: the clock never passes it, a receive with a timeout has
one, and where a caller runs it lies ahead (`Reachable.settled`), because what is due at an instant
happens before the caller's turn. -/

namespace PadLink.Session

/-! ## Beside the exchange -/

/-- Nothing of the exchange changes, and the clock does not pass its timer. -/
structure Idle (session after : Session) : Prop where
  marks : after.marks = session.marks
  phase : after.phase = session.phase
  failures : after.failures = session.failures
  settings : after.settings = session.settings
  timed : after.timed = session.timed
  closing : session.closing = true → after.closing = true
  now : session.now ≤ after.now
  prompt : ∀ u ∈ session.phase.timer, session.now ≤ u → after.now ≤ u

theorem idle_refl (session : Session) : session.Idle session :=
  ⟨rfl, rfl, rfl, rfl, rfl, id, Nat.le_refl _, fun _ _ h => h⟩

/-- What is noted beside the exchange leaves it idle. -/
theorem idle_note {event : Event} (session : Session) (hstart : event.isStart = false)
    (hmark : event.mark? = none) : session.Idle (session.note event) :=
  ⟨marks_note_of_none session hstart hmark, rfl, rfl, rfl, rfl, id, Nat.le_refl _, fun _ _ h => h⟩

/-- The exchange goes on no later than at its timer. -/
theorem exists_nextWake_le {session : Session} {u : Nat} (h : u ∈ session.phase.timer) :
    ∃ wake ∈ session.nextWake, wake ≤ u := by
  cases hphase : session.phase with
  | absent reason => simp [hphase, Phase.timer] at h
  | stopped => simp [hphase, Phase.timer] at h
  | pacing time => exact ⟨u, by simpa [nextWake, hphase] using h, Nat.le_refl _⟩
  | pulsing time => exact ⟨u, by simpa [nextWake, hphase] using h, Nat.le_refl _⟩
  | receiving deadline =>
    rw [hphase, Phase.timer, Option.mem_def] at h
    subst h
    cases hhead : session.network.inbox.head? with
    | none => exact ⟨u, by simp [nextWake, hphase, hhead, Phase.timer], Nat.le_refl _⟩
    | some arrival =>
      exact ⟨min arrival.time u, by simp [nextWake, hphase, hhead], Nat.min_le_right _ _⟩

theorem idle_nextKeystroke (session : Session) (selector : Selector) :
    session.Idle (session.nextKeystroke selector).2 := by
  refine nextKeystroke_induction selector (idle_refl session) (fun slots => ?_) fun slots report => ?_
  · exact ⟨rfl, rfl, rfl, rfl, rfl, id, Nat.le_refl _, fun _ _ h => h⟩
  · exact ⟨marks_note_of_none _ rfl rfl, rfl, rfl, rfl, rfl, id, Nat.le_refl _, fun _ _ h => h⟩

/-- A move is a wake-up or leaves the exchange idle. -/
theorem Move.wake_or_idle {session after : Session} (h : Move session after) :
    (∃ time, session.nextWake = some time ∧ after = session.resume time) ∨ session.Idle after := by
  cases h with
  | wake hwake => exact Or.inl ⟨_, hwake, rfl⟩
  | pass hlater =>
    refine Or.inr ⟨rfl, rfl, rfl, rfl, rfl, id, Nat.le_max_left _ _, ?_⟩
    intro u hu hnow
    obtain ⟨wake, hwake, hle⟩ := exists_nextWake_le hu
    have hlater := hlater wake hwake
    exact Nat.max_le.2 ⟨hnow, by omega⟩
  | deliver delivery =>
    exact Or.inr ⟨rfl, rfl, rfl, rfl, rfl, id, Nat.le_refl _, fun _ _ h => h⟩
  | enable on => exact Or.inr ⟨rfl, rfl, rfl, rfl, rfl, id, Nat.le_refl _, fun _ _ h => h⟩
  | vibrate index vibration =>
    unfold setVibration
    split
    · exact Or.inr (idle_refl _)
    · split
      · exact Or.inr (idle_refl _)
      · exact Or.inr ⟨marks_note_of_none _ rfl rfl, rfl, rfl, rfl, rfl, id, Nat.le_refl _,
          fun _ _ h => h⟩
  | acknowledge peer => exact Or.inr (idle_note session rfl rfl)
  | giveUp peer limit => exact Or.inr (idle_note session rfl rfl)
  | tell =>
    exact Or.inr ⟨marks_note_of_none session rfl rfl, rfl, rfl, rfl, rfl, fun _ => rfl,
      Nat.le_refl _, fun _ _ h => h⟩

/-- A move is a beat or leaves the exchange idle. -/
theorem Move.beat_or_idle {session after : Session} (h : Move session after) :
    (∃ time, session.nextWake = some time ∧ Beat (session.atTime time) after
        ∧ after.setup = (session.atTime time).setup)
      ∨ session.Idle after := by
  rcases h.wake_or_idle with ⟨time, hwake, rfl⟩ | hidle
  · exact Or.inl ⟨time, hwake, beat_resume hwake, setup_resume session time⟩
  · exact Or.inr hidle

/-! ## Invariants of the exchange -/

/-- The sessions at all instants since the first round of an exchange, also at those at which only
    the exchange runs. -/
inductive Attained : Session → Prop
  | launched (settings : Settings) (peer : SocketAddress) (network : Network) :
      Attained (launch settings peer network)
  | moved {session after : Session} (h : Attained session) (hmove : Move session after) :
      Attained after
  | asked {session : Session} (h : Attained session) (selector : Selector) :
      Attained (session.nextKeystroke selector).2

theorem Reachable.attained {session : Session} (h : Reachable session) : Attained session :=
  Reachable.induction .launched (fun _ _ hmove h => h.moved hmove) (fun _ selector h => h.asked selector)
    h

theorem Attained.resume {session : Session} {time : Nat} (h : Attained session)
    (hwake : session.nextWake = some time) : Attained (session.resume time) :=
  h.moved (.wake hwake)

/-- What holds in the first round, and is kept by every beat and as long as the exchange is idle,
    holds at every instant. -/
theorem Attained.induction {P : Session → Prop}
    (hlaunch : ∀ settings peer network, P (launch settings peer network))
    (hbeat : ∀ before after time, Attained before → before.nextWake = some time →
      Beat (before.atTime time) after → after.setup = (before.atTime time).setup →
      P before → P after)
    (hidle : ∀ before after, before.Idle after → P before → P after)
    {session : Session} (h : Attained session) : P session := by
  induction h with
  | launched settings peer network => exact hlaunch settings peer network
  | moved hbefore hmove ih =>
    rcases hmove.beat_or_idle with ⟨time, hwake, hbeats, hsetup⟩ | hidles
    · exact hbeat _ _ time hbefore hwake hbeats hsetup ih
    · exact hidle _ _ hidles ih
  | asked hbefore selector ih => exact hidle _ _ (idle_nextKeystroke _ selector) ih

theorem marks_launch (settings : Settings) (peer : SocketAddress) (network : Network) :
    (launch settings peer network).marks
      = [(network.now, .poll peer (.poll ({} : Bank).vibrations))] := by
  unfold launch
  dsimp only
  rw [marks_beginRound]
  simp [openingMarks, marks, entries, Network.note, Event.isStart, now]

theorem phase_launch (settings : Settings) (peer : SocketAddress) (network : Network) :
    (launch settings peer network).phase
      = .receiving (if network.obstacles.timeout.isNone then
          some (network.now + settings.receiveTimeout) else none) := by
  unfold launch
  dsimp only
  rw [phase_beginRound]
  rfl

theorem setup_launch (settings : Settings) (peer : SocketAddress) (network : Network) :
    (launch settings peer network).setup
      = { settings := settings, peer := peer, timed := network.obstacles.timeout.isNone,
          closing := false, now := network.now, stopAt := network.stopAt,
          vibrations := ({} : Bank).vibrations } := by
  unfold launch
  dsimp only
  rw [setup_beginRound]
  rfl

/-! ## The timer -/

theorem timer_openingPhase {session : Session} {u : Nat} (h : u ∈ session.openingPhase.timer) :
    u = session.now + session.settings.receiveTimeout := by
  unfold openingPhase at h
  split at h
  · cases h
  · rw [receivePhase, Phase.timer] at h
    split at h
    · exact (Option.mem_some_iff.1 h).symm
    · cases h

/-- A beat leaves a timer that is not due. -/
theorem Beat.prompt {session after : Session} (h : Beat session after) :
    ∀ u ∈ after.phase.timer, session.now ≤ u := by
  have hopening : ∀ u ∈ session.openingPhase.timer, session.now ≤ u := by
    intro u hu
    rw [timer_openingPhase hu]
    exact Nat.le_add_right _ _
  have hlater : ∀ ms u : Nat, u ∈ some (session.now + ms) → session.now ≤ u := by
    intro ms u hu
    rw [← Option.mem_some_iff.1 hu]
    exact Nat.le_add_right _ _
  cases h with
  | heard _ _ _ _ _ hafter => rw [hafter]; exact hopening
  | paced _ _ _ _ _ _ hafter => rw [hafter]; exact hlater _
  | tolerated _ _ _ hafter => rw [hafter]; exact hopening
  | pulseEnd _ _ _ hafter => rw [hafter]; exact hopening
  | outage _ _ _ hafter =>
    rw [hafter]
    split
    · exact hopening
    · exact hlater _

/-- The clock never passes the timer. -/
theorem Attained.prompt {session : Session} (h : Attained session) :
    ∀ u ∈ session.phase.timer, session.now ≤ u := by
  refine Attained.induction (P := fun session => ∀ u ∈ session.phase.timer, session.now ≤ u)
    ?_ ?_ ?_ h
  · intro settings peer network u hu
    have hnow : (launch settings peer network).now = network.now :=
      congrArg Setup.now (setup_launch settings peer network)
    rw [phase_launch, Phase.timer] at hu
    rw [hnow]
    split at hu
    · rw [← Option.mem_some_iff.1 hu]
      exact Nat.le_add_right _ _
    · cases hu
  · intro before after time _ _ hbeat hsetup _ u hu
    have hnow : after.now = (before.atTime time).now := congrArg Setup.now hsetup
    rw [hnow]
    exact hbeat.prompt u hu
  · intro before after hidle hbefore u hu
    rw [hidle.phase] at hu
    exact hidle.prompt u hu (hbefore u hu)

/-- A wake-up comes at its timer or before. -/
theorem Attained.now_atTime_le {session : Session} {time : Nat} (h : Attained session)
    (hwake : session.nextWake = some time) :
    ∀ u ∈ session.phase.timer, (session.atTime time).now ≤ u := by
  intro u hu
  obtain ⟨wake, hnext, hle⟩ := exists_nextWake_le hu
  rw [hwake, Option.mem_some_iff] at hnext
  exact Nat.max_le.2 ⟨h.prompt u hu, by omega⟩

/-! ## The times of the marks -/

/-- A beat leaves new marks in front, with its own time, and the others as they were. -/
theorem Beat.fresh {session after : Session} (h : Beat session after) :
    ∃ fresh, after.marks = fresh ++ session.marks ∧ ∀ entry ∈ fresh, entry.1 = session.now := by
  have hopening : ∀ entry ∈ session.openingMarks, entry.1 = session.now := by
    intro entry hentry
    unfold openingMarks at hentry
    split at hentry
    · cases hentry
    · rw [List.mem_singleton.1 hentry]
  have hfailed : ∀ failed inbox, session.Fails failed inbox →
      ∀ entry ∈ failed, entry.1 = session.now := by
    intro failed inbox hfails entry hentry
    cases hfails with
    | silent => rw [List.mem_singleton.1 hentry]
    | expired => rw [List.mem_singleton.1 hentry]
    | rested => cases hentry
  cases h with
  | heard _ _ _ _ hmarks =>
    refine ⟨session.openingMarks ++ [(session.now, .datagram)], by simp [hmarks], ?_⟩
    simpa [or_imp, forall_and] using hopening
  | paced _ _ _ _ _ hmarks => exact ⟨[_], hmarks, by simp⟩
  | tolerated hfails _ hmarks =>
    refine ⟨session.openingMarks ++ _, by rw [hmarks, List.append_assoc], ?_⟩
    intro entry hentry
    rcases List.mem_append.1 hentry with hentry | hentry
    · exact hopening entry hentry
    · exact hfailed _ _ hfails entry hentry
  | @outage failed inbox hfails _ hmarks =>
    refine ⟨(if session.settings.readyPulse = 0 then session.openingMarks else [])
      ++ (session.now, .outage) :: failed, by rw [hmarks, List.append_assoc]; rfl, ?_⟩
    intro entry hentry
    rcases List.mem_append.1 hentry with hentry | hentry
    · split at hentry
      · exact hopening entry hentry
      · cases hentry
    · rcases List.mem_cons.1 hentry with rfl | hentry
      · rfl
      · exact hfailed _ _ hfails entry hentry
  | pulseEnd _ _ hmarks => exact ⟨_, hmarks, hopening⟩

/-- No mark is from the future. -/
theorem Attained.marked {session : Session} (h : Attained session) :
    ∀ entry ∈ session.marks, entry.1 ≤ session.now := by
  refine Attained.induction (P := fun session => ∀ entry ∈ session.marks, entry.1 ≤ session.now)
    ?_ ?_ ?_ h
  · intro settings peer network entry hentry
    have hnow : (launch settings peer network).now = network.now :=
      congrArg Setup.now (setup_launch settings peer network)
    rw [marks_launch] at hentry
    obtain rfl := List.mem_singleton.1 hentry
    exact Nat.le_of_eq hnow.symm
  · intro before after time _ _ hbeat hsetup hbefore entry hentry
    have hnow : after.now = (before.atTime time).now := congrArg Setup.now hsetup
    obtain ⟨fresh, hmarks, hfresh⟩ := hbeat.fresh
    rw [hmarks] at hentry
    rw [hnow]
    rcases List.mem_append.1 hentry with hentry | hentry
    · exact Nat.le_of_eq (hfresh entry hentry)
    · exact Nat.le_trans (hbefore entry hentry) (Nat.le_max_left _ _)
  · intro before after hidle hbefore entry hentry
    rw [hidle.marks] at hentry
    exact Nat.le_trans (hbefore entry hentry) hidle.now

/-! ## A session that is not being closed -/

theorem Leads.closing {session after : Session} (h : session.Leads after)
    (hclosing : session.closing = true) : after.closing = true := by
  refine h.induction (P := fun session => session.closing = true) ?_ hclosing
  intro before after hmove hbefore
  rcases hmove.beat_or_idle with ⟨time, -, -, hsetup⟩ | hidle
  · exact (congrArg Setup.closing hsetup).trans hbefore
  · exact hidle.closing hbefore

/-- A beat of a session that is not being closed leaves an exchange that goes on. -/
theorem Beat.check_eq_ok {session after : Session} (h : Beat session after)
    (hopen : session.closing = false) : after.check = .ok () := by
  have hopening : session.openingPhase = session.receivePhase := by
    rw [openingPhase, hopen]
    rfl
  cases h with
  | heard _ _ _ _ _ hafter => rw [check, hafter, hopening]; rfl
  | paced _ _ _ _ _ _ hafter => rw [check, hafter]
  | tolerated _ _ _ hafter => rw [check, hafter, hopening]; rfl
  | pulseEnd _ _ _ hafter => rw [check, hafter, hopening]; rfl
  | outage _ _ _ hafter =>
    rw [hopening] at hafter
    by_cases hpulse : session.settings.readyPulse = 0
    · rw [check, hafter, if_pos hpulse]
      rfl
    · rw [check, hafter, if_neg hpulse]

/-- As long as a session is not being closed there is an exchange. -/
theorem Attained.check_eq_ok {session : Session} (h : Attained session)
    (hopen : session.closing = false) : session.check = .ok () := by
  refine Attained.induction
    (P := fun session => session.closing = false → session.check = .ok ()) ?_ ?_ ?_ h hopen
  · intro settings peer network _
    rw [check, phase_launch]
  · intro before after time _ _ hbeat hsetup _ hopen
    exact hbeat.check_eq_ok ((congrArg Setup.closing hsetup).symm.trans hopen)
  · intro before after hidle hbefore hopen
    rw [check, hidle.phase, ← check]
    apply hbefore
    cases hclosing : before.closing with
    | false => rfl
    | true => rw [hidle.closing hclosing] at hopen; cases hopen

/-- A receive of a session with timeouts has a deadline. -/
theorem Attained.deadline {session : Session} (h : Attained session) (htimed : session.timed = true)
    {deadline : Option Nat} (hphase : session.phase = .receiving deadline) :
    ∃ u, deadline = some u := by
  have hopening : ∀ other : Session, other.timed = true → ∀ deadline,
      other.openingPhase = .receiving deadline → ∃ u, deadline = some u := by
    intro other htimed deadline hphase
    unfold openingPhase at hphase
    split at hphase
    · cases hphase
    · rw [receivePhase, htimed, if_pos rfl] at hphase
      exact ⟨_, (Phase.receiving.inj hphase).symm⟩
  refine Attained.induction
    (P := fun session => session.timed = true → ∀ deadline, session.phase = .receiving deadline →
      ∃ u, deadline = some u) ?_ ?_ ?_ h htimed deadline hphase
  · intro settings peer network htimed deadline hphase
    have htimeout : network.obstacles.timeout.isNone = true :=
      (congrArg Setup.timed (setup_launch settings peer network)).symm.trans htimed
    rw [phase_launch, htimeout, if_pos rfl] at hphase
    exact ⟨_, (Phase.receiving.inj hphase).symm⟩
  · intro before after time _ _ hbeat hsetup _ htimed deadline hphase
    have htimed : (before.atTime time).timed = true :=
      (congrArg Setup.timed hsetup).symm.trans htimed
    cases hbeat with
    | heard _ _ _ _ _ hafter => exact hopening _ htimed _ (hafter.symm.trans hphase)
    | paced _ _ _ _ _ _ hafter => rw [hafter] at hphase; cases hphase
    | tolerated _ _ _ hafter => exact hopening _ htimed _ (hafter.symm.trans hphase)
    | pulseEnd _ _ _ hafter => exact hopening _ htimed _ (hafter.symm.trans hphase)
    | outage _ _ _ hafter =>
      rw [hafter] at hphase
      split at hphase
      · exact hopening _ htimed _ hphase
      · cases hphase
  · intro before after hidle hbefore htimed deadline hphase
    exact hbefore (hidle.timed.symm.trans htimed) deadline (hidle.phase.symm.trans hphase)

/-- So a session with timeouts that is not being closed has a timer. -/
theorem Attained.timer {session : Session} (h : Attained session) (hopen : session.closing = false)
    (htimed : session.timed = true) : ∃ u, session.phase.timer = some u := by
  have hcheck := h.check_eq_ok hopen
  rw [check] at hcheck
  cases hphase : session.phase with
  | absent reason => rw [hphase] at hcheck; cases hcheck
  | stopped => rw [hphase] at hcheck; cases hcheck
  | pacing u => exact ⟨u, rfl⟩
  | pulsing u => exact ⟨u, rfl⟩
  | receiving deadline =>
    obtain ⟨u, rfl⟩ := h.deadline htimed hphase
    exact ⟨u, rfl⟩

/-! ## Where a caller runs -/

/-- Everything that is due has happened. -/
def Settled (session : Session) : Prop := ∀ wake ∈ session.nextWake, session.now < wake

theorem now_follow_le {session : Session} {horizon : Nat} (enough : Session → Bool)
    (h : session.now ≤ horizon) : (session.follow horizon enough).now ≤ horizon := by
  fun_induction follow horizon enough session with
  | case1 session hnone => exact h
  | case3 session time hwake hdue => exact h
  | case2 session time hwake hdue ih =>
    apply ih
    rw [now_resume]
    exact Nat.max_le.2 ⟨h, hdue.1⟩

theorem now_advanceTo {session : Session} {time : Nat} (h : session.now ≤ time) :
    (session.advanceTo time).now = time :=
  Nat.max_eq_right (now_follow_le _ h)

theorem settled_advanceTo {session : Session} {time : Nat} (h : session.now ≤ time) :
    (session.advanceTo time).Settled := by
  intro wake hwake
  rw [now_advanceTo h]
  exact lt_nextWake_follow session time wake hwake

theorem settled_follow {session : Session} {horizon : Nat} (enough : Session → Bool)
    (h : session.now ≤ horizon) : (session.follow horizon enough).Settled := by
  fun_induction follow horizon enough session with
  | case1 session hnone =>
    intro wake hwake
    rw [hnone] at hwake
    cases hwake
  | case2 session time hwake hdue ih =>
    apply ih
    rw [now_resume]
    exact Nat.max_le.2 ⟨h, hdue.1⟩
  | case3 session time hnext hdue =>
    intro wake hwake
    rw [hnext, Option.mem_some_iff] at hwake
    subst hwake
    refine Nat.lt_of_not_le fun hle => hdue ⟨Nat.le_trans hle h, Or.inr hle⟩

theorem settled_awaitHandshake (session : Session) : session.awaitHandshake.Settled := by
  have hlimit : session.now ≤ session.now + session.settings.handshakeWait := Nat.le_add_right _ _
  unfold awaitHandshake
  dsimp only
  split
  · exact settled_follow acknowledged hlimit
  · next hunheard =>
    have hlater := lt_nextWake_of_not_enough _ acknowledged session (Bool.eq_false_iff.2 hunheard)
    have hnow := Nat.max_eq_right (now_follow_le acknowledged hlimit)
    intro wake hwake
    exact Nat.lt_of_le_of_lt (Nat.le_of_eq hnow) (hlater wake hwake)

theorem settled_openWith (settings : Settings) (peer : SocketAddress) (network : Network) :
    (openWith settings peer network).Settled := by
  have hunopened : ∀ (network : Network) (error : Error),
      (unopened settings peer network error).Settled := fun _ _ => nofun
  unfold openWith
  split
  · exact hunopened _ _
  · dsimp only
    split
    · exact hunopened _ _
    · exact settled_awaitHandshake _

/-- No time at all leaves such a session as it is. -/
theorem Settled.advanceTo_now {session : Session} (h : session.Settled) :
    session.advanceTo session.now = session := by
  rw [advanceTo_of_later h]
  simp only [atTime, now, Nat.max_self]

/-- A caller that wakes up finds that time has passed. -/
theorem eq_advance_of_sleep {session after : Session} {ms : Nat} (h : session.sleep ms = some after) :
    after = session.advance ms := by
  unfold sleep at h
  dsimp only at h
  split at h
  · cases h
  · exact (Option.some.inj h).symm

/-- What every sleep keeps holds where a wait ends. -/
theorem lookForReady_induction {P : Session → Prop}
    (hsleep : ∀ before after ms, before.sleep ms = some after → P before → P after)
    {since looks : Nat} {session after : Session} {outcome : Except Error Unit}
    (h : lookForReady since looks session = some (outcome, after)) (hsession : P session) :
    P after := by
  -- Each look begins from where the last sleep led to.
  induction looks generalizing session with
  | zero => cases h
  | succ looks ih =>
    unfold lookForReady at h
    split at h
    · obtain ⟨-, rfl⟩ := Prod.mk.inj (Option.some.inj h)
      exact hsession
    · split at h
      · obtain ⟨-, rfl⟩ := Prod.mk.inj (Option.some.inj h)
        exact hsession
      · split at h
        · obtain ⟨-, rfl⟩ := Prod.mk.inj (Option.some.inj h)
          exact hsession
        · obtain ⟨rested, hrested, hrest⟩ := Option.bind_eq_some_iff.1 h
          exact ih hrest (hsleep session rested _ hrested hsession)

theorem Settled.lookForReady {since looks : Nat} {session after : Session}
    {outcome : Except Error Unit} (h : session.Settled)
    (hlook : Session.lookForReady since looks session = some (outcome, after)) : after.Settled := by
  refine lookForReady_induction (fun before after ms hsleep _ => ?_) hlook h
  rw [eq_advance_of_sleep hsleep]
  exact settled_advanceTo (Nat.le_add_right _ _)

/-- A question about a slot is answered at once or behind the wait for readiness. -/
theorem after_askSlot {α : Type} {session after : Session} {index : UInt32}
    {ask : Slot → Except Error α} {outcome : Except Error α}
    (h : session.askSlot index ask = some (outcome, after)) :
    after = session ∨ ∃ found, session.waitReady = some (found, after) := by
  unfold askSlot at h
  split at h
  · exact Or.inl (Prod.mk.inj (Option.some.inj h)).2.symm
  · split at h
    · cases h
    · next hwait =>
      rw [← (Prod.mk.inj (Option.some.inj h)).2]
      exact Or.inr ⟨_, hwait⟩
    · next hwait =>
      dsimp only at h
      split at h
      · rw [← (Prod.mk.inj (Option.some.inj h)).2]
        exact Or.inr ⟨_, hwait⟩
      · rw [← (Prod.mk.inj (Option.some.inj h)).2]
        exact Or.inr ⟨_, hwait⟩

theorem after_of_map {α β : Type} {outcome : Option (α × Session)} {f : α → β} {b : β}
    {after : Session} (h : outcome.map (fun found => (f found.1, found.2)) = some (b, after)) :
    ∃ a, outcome = some (a, after) := by
  obtain ⟨⟨a, last⟩, hfound, heq⟩ := Option.map_eq_some_iff.1 h
  obtain ⟨-, rfl⟩ := Prod.mk.inj heq
  exact ⟨a, hfound⟩

/-- Behind a request the session is as it was or as the wait for readiness left it, or the request was
    a command or a keystroke query. -/
theorem after_answer {session after : Session} {request : Request} {answer : Answer}
    (h : session.answer request = some (answer, after)) :
    (after = session ∨ ∃ found, session.waitReady = some (found, after))
      ∨ (∃ on, request = .enable on ∧ after = session.enable on)
      ∨ (∃ index vibration, request = .setVibration index vibration
          ∧ answer = .done (session.setVibration index vibration).1
          ∧ after = (session.setVibration index vibration).2)
      ∨ ∃ selector, request = .keystroke selector ∧ after = (session.nextKeystroke selector).2 := by
  cases request with
  | enable on =>
    exact Or.inr (Or.inl ⟨on, rfl, (Prod.mk.inj (Option.some.inj h)).2.symm⟩)
  | setVibration index vibration =>
    obtain ⟨hanswer, hafter⟩ := Prod.mk.inj (Option.some.inj h)
    exact Or.inr (Or.inr (Or.inl ⟨index, vibration, rfl, hanswer.symm, hafter.symm⟩))
  | keystroke selector =>
    exact Or.inr (Or.inr (Or.inr ⟨selector, rfl, (Prod.mk.inj (Option.some.inj h)).2.symm⟩))
  | state index =>
    obtain ⟨_, hstate⟩ := after_of_map h
    obtain ⟨_, hextended⟩ := after_of_map hstate
    exact Or.inl (after_askSlot hextended)
  | extendedState index =>
    obtain ⟨_, hextended⟩ := after_of_map h
    exact Or.inl (after_askSlot hextended)
  | capabilities index flags =>
    obtain ⟨_, hcapabilities⟩ := after_of_map h
    obtain ⟨_, hextended⟩ := after_of_map hcapabilities
    exact Or.inl (after_askSlot hextended)
  | extendedCapabilities index flags =>
    obtain ⟨_, hextended⟩ := after_of_map h
    exact Or.inl (after_askSlot hextended)
  | battery index kind => exact Or.inl (Or.inl (Prod.mk.inj (Option.some.inj h)).2.symm)
  | audioDevices index => exact Or.inl (Or.inl (Prod.mk.inj (Option.some.inj h)).2.symm)
  | status index => exact Or.inl (Or.inl (Prod.mk.inj (Option.some.inj h)).2.symm)
  | peer => exact Or.inl (Or.inl (Prod.mk.inj (Option.some.inj h)).2.symm)

theorem Settled.setVibration {session : Session} (h : session.Settled) (index : UInt32)
    (vibration : Vibration) : (session.setVibration index vibration).2.Settled := by
  unfold Session.setVibration
  split
  · exact h
  · split
    · exact h
    · exact h

theorem Settled.nextKeystroke {session : Session} (h : session.Settled) (selector : Selector) :
    (session.nextKeystroke selector).2.Settled :=
  nextKeystroke_induction selector h (fun _ => h) fun _ _ => h

theorem Settled.step {session after : Session} {step : Step} {answer : Answer} (h : session.Settled)
    (hstep : session.step step = some (answer, after)) : after.Settled := by
  cases step with
  | push delivery =>
    rw [← (Prod.mk.inj (Option.some.inj hstep)).2]
    exact settled_advanceTo (Nat.le_add_right _ _)
  | advance ms =>
    rw [← (Prod.mk.inj (Option.some.inj hstep)).2]
    exact settled_advanceTo (Nat.le_add_right _ _)
  | request request =>
    rcases after_answer hstep with (rfl | ⟨found, hwait⟩) | ⟨on, -, rfl⟩
      | ⟨index, vibration, -, -, rfl⟩ | ⟨selector, -, rfl⟩
    · exact h
    · exact h.lookForReady hwait
    · exact h
    · exact h.setVibration index vibration
    · exact h.nextKeystroke selector

theorem Settled.run {session last : Session} {steps : List Step} {answers : List Answer}
    (h : session.Settled) (hrun : session.run steps = some (answers, last)) : last.Settled := by
  induction steps generalizing session answers with
  | nil =>
    obtain ⟨-, rfl⟩ := Prod.mk.inj (Option.some.inj hrun)
    exact h
  | cons step rest ih =>
    obtain ⟨answer, next, others, hstep, hrest, -⟩ := run_cons_eq_some.1 hrun
    exact ih (h.step hstep) hrest

theorem closing_step {session after : Session} {step : Step} {answer : Answer}
    (hstep : session.step step = some (answer, after)) (hopen : after.closing = false) :
    session.closing = false := by
  cases hclosing : session.closing with
  | false => rfl
  | true =>
    rcases leads_step hstep with ⟨hleads, -⟩ | ⟨selector, -, rfl⟩
    · rw [hleads.closing hclosing] at hopen
      cases hopen
    · rw [(idle_nextKeystroke session selector).closing hclosing] at hopen
      cases hopen

/-- Closing begins with a note that never goes away. -/
theorem closing_close {session : Session} (hopen : session.close.closing = false) :
    session.close = session := by
  unfold close at hopen ⊢
  split at hopen
  · rfl
  · next hphase =>
    generalize htold : ({ session.note .closing with closing := true } : Session) = told at hopen
    have hclosing : told.closing = true := by rw [← htold]
    have hleads : told.Leads told.unblock.finishWait.finishWait.finishWait :=
      (((leads_unblock _).trans (leads_finishWait _)).trans (leads_finishWait _)).trans
        (leads_finishWait _)
    rw [hleads.closing hclosing] at hopen
    cases hopen

/-- Where a caller runs, everything that is due has happened. -/
theorem Reachable.settled {session : Session} (h : Reachable session)
    (hopen : session.closing = false) : session.Settled := by
  induction h with
  | opened _ _ => exact settled_openWith _ _ _
  | stepped _ hstep ih => exact (ih (closing_step hstep hopen)).step hstep
  | slept _ hsleep _ =>
    rw [eq_advance_of_sleep hsleep]
    exact settled_advanceTo (Nat.le_add_right _ _)
  | closed _ ih =>
    have heq := closing_close hopen
    rw [heq] at hopen ⊢
    exact ih hopen

end PadLink.Session
