import PadLink.Session.Basic

set_option autoImplicit false

/-! # The passing of time

While a caller lets time pass up to some instant, the exchange is resumed at every wake-up that is
due by then, in the order of their times, and afterwards the clock stands at that instant. So at one
instant the exchange always comes before the caller.

That there are finitely many wake-ups is measured by `Session.work`: each either takes a delivery
out of the inbox or moves the timer forward, because a receive never waits for nothing. -/

namespace PadLink.Session

/-! ## Every wake-up moves the timer or empties the inbox -/

/-- The second session has the first one's inbox, and its timer lies ahead of the first one's
    clock. -/
def Ahead (session after : Session) : Prop :=
  after.network.inbox = session.network.inbox ∧ ∀ t ∈ after.phase.timer, session.now < t

theorem ahead_beginRound (session : Session) : session.Ahead session.beginRound := by
  have hpos := session.settings.receiveTimeout_pos
  unfold beginRound
  split
  · exact ⟨rfl, by simp [Phase.timer]⟩
  · refine ⟨rfl, ?_⟩
    intro t ht
    simp only [receivePhase, Phase.timer] at ht
    split at ht
    · have := Option.mem_some_iff.1 ht
      omega
    · exact absurd ht (by simp)

theorem ahead_endPulse (session : Session) : session.Ahead session.endPulse := by
  have h := ahead_beginRound { session with bank := session.bank.setReady false }
  exact ⟨h.1, h.2⟩

theorem ahead_declareOutage (session : Session) : session.Ahead session.declareOutage := by
  unfold declareOutage
  split
  · have h := ahead_endPulse session.loseServer
    exact ⟨h.1, h.2⟩
  · refine ⟨rfl, ?_⟩
    intro t ht
    have := Option.mem_some_iff.1 ht
    omega

theorem ahead_countFailure (session : Session) : session.Ahead session.countFailure := by
  unfold countFailure
  dsimp only
  split
  · exact ahead_declareOutage session
  · have h := ahead_beginRound { session with failures := min (session.failures + 1) failureCap }
    exact ⟨h.1, h.2⟩

theorem ahead_expire (session : Session) : session.Ahead session.expire := by
  have h := ahead_countFailure (session.note (.receiveFailed none))
  exact ⟨h.1, h.2⟩

theorem inbox_note (session : Session) (event : Event) :
    (session.note event).network.inbox = session.network.inbox := rfl

theorem inbox_notes (events : List Event) (session : Session) :
    (events.foldl note session).network.inbox = session.network.inbox := by
  induction events generalizing session with
  | nil => rfl
  | cons event rest ih =>
    rw [List.foldl_cons, ih]
    rfl

theorem inbox_dispatch (session : Session) (datagram : Datagram) :
    (session.dispatch datagram).network.inbox = session.network.inbox := by
  unfold dispatch
  split
  · rfl
  · dsimp only
    rw [inbox_notes]
  · rfl

/-- Taking a delivery in leaves the inbox alone. -/
theorem inbox_accept (session : Session) (delivery : Delivery) :
    (session.accept delivery).network.inbox = session.network.inbox := by
  cases delivery with
  | payload bytes =>
    simp only [accept, acceptPayload]
    rw [(ahead_beginRound _).1, inbox_dispatch, inbox_note]
  | fault fault =>
    simp only [accept, acceptFault]
    split
    · rw [(ahead_countFailure _).1, inbox_note]
    · rw [inbox_note]

/-! ## Wake-ups come to an end -/

/-- A bound on the wake-ups up to a time: one delivery is worth more than all the time there is, and
    the time that is left behind the timer counts besides. -/
def work (session : Session) (horizon : Nat) : Nat :=
  session.network.inbox.length * (horizon + 2)
    + (session.phase.timer.map fun time => horizon + 1 - time).getD 0

/-- A session whose timer lies ahead has less work than one whose timer is due. -/
theorem work_lt_of_ahead {session after : Session} {time horizon : Nat}
    (h : (session.atTime time).Ahead after) (htimer : session.phase.timer = some time)
    (hdue : time ≤ horizon) : after.work horizon < session.work horizon := by
  have hinbox : after.network.inbox = session.network.inbox := h.1
  have hnow : time ≤ (session.atTime time).now := Nat.le_max_right _ _
  unfold work
  rw [hinbox, htimer]
  cases hafter : after.phase.timer with
  | none =>
    simp only [Option.map_some, Option.map_none, Option.getD_some, Option.getD_none]
    omega
  | some t =>
    have := h.2 t hafter
    simp only [Option.map_some, Option.getD_some]
    omega

/-- A session with one delivery less has less work, whatever its timer. -/
theorem work_lt_of_inbox {session after : Session} {horizon : Nat}
    (hinbox : after.network.inbox.length + 1 = session.network.inbox.length) :
    after.work horizon < session.work horizon := by
  have hbound : (after.phase.timer.map fun time => horizon + 1 - time).getD 0 < horizon + 2 := by
    cases after.phase.timer with
    | none => simp
    | some t => simp only [Option.map_some, Option.getD_some]; omega
  unfold work
  rw [← hinbox, Nat.add_mul]
  omega

/-- If the exchange receives and finds nothing, its timer is due. -/
theorem timer_of_not_due {session : Session} {time : Nat} {deadline : Option Nat}
    (hphase : session.phase = .receiving deadline) (hwake : session.nextWake = some time)
    (hnone : ∀ arrival ∈ session.network.inbox.head?, time < arrival.time) :
    session.phase.timer = some time := by
  simp only [nextWake, hphase] at hwake
  rw [hphase]
  cases hhead : session.network.inbox.head? with
  | none => simpa [hhead] using hwake
  | some arrival =>
    have hlate := hnone arrival hhead
    cases deadline with
    | none =>
      simp only [hhead, Option.some.injEq] at hwake
      omega
    | some deadline =>
      simp only [hhead, Option.some.injEq] at hwake
      simp only [Phase.timer, Option.some.injEq]
      omega

/-- Every wake-up within the horizon leaves less work. -/
theorem work_resume_lt {session : Session} {time horizon : Nat}
    (hwake : session.nextWake = some time) (hdue : time ≤ horizon) :
    (session.resume time).work horizon < session.work horizon := by
  have hphase : (session.atTime time).phase = session.phase := rfl
  unfold resume wake
  rw [hphase]
  cases h : session.phase with
  -- Without an exchange there is no wake-up.
  | absent reason => simp [nextWake, h, Phase.timer] at hwake
  | stopped => simp [nextWake, h, Phase.timer] at hwake
  -- These two wait for their timer alone, and what follows has a timer ahead.
  | pacing until_ =>
    have htimer : session.phase.timer = some time := by simpa [nextWake, h] using hwake
    exact work_lt_of_ahead (ahead_countFailure _) htimer hdue
  | pulsing until_ =>
    have htimer : session.phase.timer = some time := by simpa [nextWake, h] using hwake
    exact work_lt_of_ahead (ahead_endPulse _) htimer hdue
  -- A receive either takes the head of the inbox or has come to its deadline.
  | receiving deadline =>
    have hinbox : (session.atTime time).network.inbox = session.network.inbox := rfl
    have hnow : time ≤ (session.atTime time).now := Nat.le_max_right _ _
    dsimp only
    unfold receive
    rw [hinbox]
    cases hhead : session.network.inbox.head? with
    | none =>
      have htimer := timer_of_not_due h hwake (by simp [hhead])
      exact work_lt_of_ahead (ahead_expire _) htimer hdue
    | some arrival =>
      dsimp only
      split
      · refine work_lt_of_inbox ?_
        rw [inbox_accept]
        obtain ⟨rest, hrest⟩ := List.head?_eq_some_iff.1 hhead
        show (session.network.inbox.tail).length + 1 = _
        rw [hrest]
        rfl
      · next hlate =>
        have hlate : ∀ a ∈ session.network.inbox.head?, time < a.time := by
          intro a ha
          rw [hhead, Option.mem_some_iff] at ha
          rw [← ha]
          omega
        have htimer := timer_of_not_due h hwake hlate
        exact work_lt_of_ahead (ahead_expire _) htimer hdue

/-! ## Letting time pass -/

/-- Resume the exchange at every wake-up up to the horizon. Once the given condition holds, only
    wake-ups that are due by then are still taken. -/
def follow (horizon : Nat) (enough : Session → Bool) (session : Session) : Session :=
  match _h : session.nextWake with
  | none => session
  | some time =>
    if _hdue : time ≤ horizon ∧ (enough session = false ∨ time ≤ session.now) then
      follow horizon enough (session.resume time)
    else session
termination_by session.work horizon
decreasing_by exact work_resume_lt (by assumption) _hdue.1

/-- Let time pass up to an instant. -/
def advanceTo (session : Session) (time : Nat) : Session :=
  (session.follow time fun _ => false).atTime time

/-- The next wake-up does not depend on the clock. -/
theorem nextWake_atTime (session : Session) (time : Nat) :
    (session.atTime time).nextWake = session.nextWake := rfl

theorem atTime_atTime (session : Session) {time later : Nat} (h : time ≤ later) :
    (session.atTime time).atTime later = session.atTime later := by
  have : max (max session.network.now time) later = max session.network.now later := by omega
  simp only [atTime, this]

/-- A wake-up at or after a time goes the same way whether the clock already stands at that time or
    not. -/
theorem resume_atTime (session : Session) {time later : Nat} (h : time ≤ later) :
    (session.atTime time).resume later = session.resume later := by
  rw [resume, resume, atTime_atTime session h]

/-- What `follow` does when every wake-up up to the horizon is taken. -/
theorem follow_always (session : Session) (horizon : Nat) :
    session.follow horizon (fun _ => false)
      = match session.nextWake with
        | none => session
        | some time =>
          if time ≤ horizon then (session.resume time).follow horizon (fun _ => false)
          else session := by
  rw [follow]
  split
  · next h => rw [h]
  · next time h => simp [h]

/-- Nothing is left to be done up to the horizon. -/
theorem follow_of_later {session : Session} {horizon : Nat}
    (h : ∀ time ∈ session.nextWake, horizon < time) :
    session.follow horizon (fun _ => false) = session := by
  rw [follow_always]
  split
  · rfl
  · next time hwake =>
    have := h time hwake
    rw [if_neg (by omega)]

/-- After following up to the horizon the next wake-up lies behind it. -/
theorem lt_nextWake_follow (session : Session) (horizon : Nat) :
    ∀ time ∈ (session.follow horizon fun _ => false).nextWake, horizon < time := by
  rw [follow_always]
  cases hwake : session.nextWake with
  | none => simp [hwake]
  | some time =>
    dsimp only
    by_cases hdue : time ≤ horizon
    · rw [if_pos hdue]
      exact lt_nextWake_follow (session.resume time) horizon
    · rw [if_neg hdue]
      intro t ht
      rw [hwake, Option.mem_some_iff] at ht
      omega
termination_by session.work horizon
decreasing_by exact work_resume_lt hwake hdue

/-- Following in two parts is following in one. -/
theorem follow_follow (session : Session) {horizon later : Nat} (h : horizon ≤ later) :
    ((session.follow horizon fun _ => false).follow later fun _ => false)
      = session.follow later fun _ => false := by
  rw [follow_always session horizon, follow_always session later]
  cases hwake : session.nextWake with
  | none =>
    dsimp only
    rw [follow_always, hwake]
  | some time =>
    dsimp only
    by_cases hdue : time ≤ horizon
    · rw [if_pos hdue, if_pos (Nat.le_trans hdue h)]
      exact follow_follow (session.resume time) h
    · rw [if_neg hdue, follow_always, hwake]
termination_by session.work horizon
decreasing_by exact work_resume_lt hwake hdue

/-- The clock does not matter for what follows behind it. -/
theorem advanceTo_atTime (session : Session) {time later : Nat} (h : time ≤ later)
    (hahead : ∀ t ∈ session.nextWake, time < t) :
    (session.atTime time).advanceTo later = session.advanceTo later := by
  unfold advanceTo
  rw [follow_always (session.atTime time), follow_always session, nextWake_atTime]
  cases hwake : session.nextWake with
  | none => exact atTime_atTime session h
  | some t =>
    have ht := hahead t hwake
    dsimp only
    split
    · rw [resume_atTime session (by omega)]
    · exact atTime_atTime session h

/-- How the passing of time is cut into parts makes no difference. -/
theorem advanceTo_advanceTo (session : Session) {time later : Nat} (h : time ≤ later) :
    (session.advanceTo time).advanceTo later = session.advanceTo later := by
  have hcut := advanceTo_atTime _ h (lt_nextWake_follow session time)
  rw [← advanceTo] at hcut
  rw [hcut, advanceTo, advanceTo, follow_follow session h]

/-- As long as nothing is due, time only moves the clock. -/
theorem advanceTo_of_later {session : Session} {time : Nat}
    (h : ∀ wake ∈ session.nextWake, time < wake) : session.advanceTo time = session.atTime time := by
  rw [advanceTo, follow_of_later h]

/-- Let an amount of time pass. -/
def advance (session : Session) (ms : Nat) : Session := session.advanceTo (session.now + ms)

/-- Put a delivery into the inbox, due from now on, and let the exchange have what is due. -/
def push (session : Session) (delivery : Delivery) : Session :=
  { session with network := session.network.deliver delivery }.advance 0

end PadLink.Session
