import PadLink.Proofs.Session.Course
import PadLink.Proofs.Session.Pulse
import PadLink.Proofs.Session.Sends

set_option autoImplicit false

/-! # How often the exchange polls

The exchange polls once a round, and a round lasts as long as a receive's wait, or ends early: by a
datagram, or by a fault that says no more than that nothing is there. So what the exchange has polled by
some time is paid for, by the time that has passed or by what ended a receive early (`Metered`). The
account is kept with the timer: the rounds so far, each at the price of a receive's wait, fill the time
up to the timer and no more.

A wake-up that begins a round finds the timer reached, or something that ended the receive early and is
worth as much as was left of the wait. A fault that says more begins no round: its wait is behind the
receive, so the timer moves by at most a receive's wait, and the account with it. -/

namespace PadLink

/-- Whether the mark is an attempt to poll. -/
def Mark.isPoll : Mark → Bool
  | poll _ _ => true
  | _ => false

/-- Whether the mark is a datagram that came in. -/
def Mark.isDatagram : Mark → Bool
  | datagram => true
  | _ => false

/-- Whether the event is a fault that says no more than that nothing is there yet. -/
def Event.isSilentFault : Event → Bool
  | receiveFailed (some fault) => fault.isSilence
  | _ => false

namespace Session

/-! ## Counting -/

/-- How many marks of a kind there are up to a time. -/
def countBy (kind : Mark → Bool) (limit : Nat) (marks : List (Nat × Mark)) : Nat :=
  marks.countP fun entry => kind entry.2 && decide (entry.1 ≤ limit)

/-- How many polls were tried up to a time. -/
def pollsBy (session : Session) (limit : Nat) : Nat := countBy Mark.isPoll limit session.marks

/-- How many datagrams came in up to a time. -/
def datagramsBy (session : Session) (limit : Nat) : Nat := countBy Mark.isDatagram limit session.marks

/-- How many faults up to a time said no more than that nothing was there yet. -/
def silentFaultsBy (session : Session) (limit : Nat) : Nat :=
  session.entries.countP fun entry => entry.event.isSilentFault && decide (entry.time ≤ limit)

/-- How many receives have ended early up to a time. -/
def earlyBy (session : Session) (limit : Nat) : Nat :=
  session.datagramsBy limit + session.silentFaultsBy limit

@[simp] theorem countBy_append (kind : Mark → Bool) (limit : Nat) (later earlier : List (Nat × Mark)) :
    countBy kind limit (later ++ earlier) = countBy kind limit later + countBy kind limit earlier :=
  List.countP_append

@[simp] theorem countBy_cons (kind : Mark → Bool) (limit : Nat) (entry : Nat × Mark)
    (earlier : List (Nat × Mark)) : countBy kind limit (entry :: earlier)
      = countBy kind limit earlier + if kind entry.2 && decide (entry.1 ≤ limit) then 1 else 0 :=
  List.countP_cons

@[simp] theorem countBy_nil (kind : Mark → Bool) (limit : Nat) : countBy kind limit [] = 0 := rfl

theorem countBy_of_late {kind : Mark → Bool} {limit : Nat} {marks : List (Nat × Mark)}
    (h : ∀ entry ∈ marks, limit < entry.1) : countBy kind limit marks = 0 := by
  refine List.countP_eq_zero.2 fun entry hentry => ?_
  have hlate := h entry hentry
  simp only [Bool.and_eq_true, decide_eq_true_eq, not_and]
  omega

/-- A round begins with one poll at most. -/
theorem countBy_openingMarks_le (session : Session) (limit : Nat) :
    countBy Mark.isPoll limit session.openingMarks ≤ 1 := by
  unfold openingMarks
  split
  · exact Nat.zero_le 1
  · rw [countBy_cons, countBy_nil]
    split <;> simp

/-- A failure is no poll. -/
theorem Fails.countBy_isPoll {session : Session} {failed : List (Nat × Mark)} {inbox : List Arrival}
    (h : session.Fails failed inbox) (limit : Nat) : countBy Mark.isPoll limit failed = 0 := by
  cases h <;> rfl

/-! ## Silent faults -/

/-- What is written stays written. -/
theorem Writes.grows {session after : Session} (h : session.Writes after) :
    ∃ fresh, after.entries = fresh ++ session.entries := by
  cases h with
  | plain fresh hentries => exact ⟨fresh, hentries⟩
  | reply fresh payload _ hentries =>
    exact ⟨fresh ++ (session.changeEntries after.now (.ofPayload payload)
      ++ [⟨after.now, .received payload session.peer⟩]), by rw [hentries]; simp⟩

theorem silentFaultsBy_le_of_grows {session after : Session}
    (h : ∃ fresh, after.entries = fresh ++ session.entries) (limit : Nat) :
    session.silentFaultsBy limit ≤ after.silentFaultsBy limit := by
  obtain ⟨fresh, hentries⟩ := h
  rw [silentFaultsBy, silentFaultsBy, hentries, List.countP_append]
  exact Nat.le_add_left _ _

theorem Move.silentFaultsBy_le {before after : Session} (h : Move before after) (limit : Nat) :
    before.silentFaultsBy limit ≤ after.silentFaultsBy limit := by
  rcases h.writes with hwrites | ⟨slot, vibration, hcommand⟩
  · exact silentFaultsBy_le_of_grows hwrites.grows limit
  · exact silentFaultsBy_le_of_grows ⟨[_], hcommand.entries⟩ limit

/-- A silent fault that is received is one more. -/
theorem silentFaultsBy_receive {session : Session} {arrival : Arrival} {fault : Fault} {limit : Nat}
    (hhead : session.network.inbox.head? = some arrival) (hdue : arrival.time ≤ session.now)
    (hfault : arrival.delivery = .fault fault) (hsilent : fault.isSilence = true)
    (hlimit : session.now ≤ limit) :
    session.silentFaultsBy limit + 1 ≤ session.receive.silentFaultsBy limit := by
  have hreceive : session.receive = (session.dropHead.note (.receiveFailed fault)).countFailure := by
    rw [receive, hhead]
    dsimp only
    rw [if_pos hdue, hfault, accept, acceptFault, if_pos hsilent]
  generalize hnoted : session.dropHead.note (.receiveFailed fault) = noted at hreceive
  have hcount : noted.silentFaultsBy limit = session.silentFaultsBy limit + 1 := by
    have hentries : noted.entries = ⟨session.now, .receiveFailed fault⟩ :: session.entries := by
      rw [← hnoted]
      exact entries_note session.dropHead _ rfl
    rw [silentFaultsBy, hentries, List.countP_cons_of_pos, silentFaultsBy]
    simp [Event.isSilentFault, hsilent, hlimit]
  -- What follows the fault is written behind it.
  have hwrites : noted.Writes noted.countFailure :=
    writes_of_journal (setup_countFailure noted)
      ((keeps_plain noted noted.network.journal).countFailure ⟨[], rfl, by simp⟩)
  rw [hreceive, ← hcount]
  exact silentFaultsBy_le_of_grows hwrites.grows limit

/-! ## What a beat spends -/

/-- The beat brings one poll at most, and leaves a timer behind which another one is paid for. -/
structure Spends (limit : Nat) (session after : Session) : Prop where
  polls : after.pollsBy limit ≤ session.pollsBy limit + 1
  timer : ∀ u ∈ after.phase.timer,
    after.pollsBy limit * session.settings.receiveTimeout + session.now
      ≤ u + session.pollsBy limit * session.settings.receiveTimeout

/-- The beginning of a round costs a poll, and sets the timer a receive's wait ahead. -/
theorem spends_of_opening {limit : Nat} {session after : Session} {fresh : List (Nat × Mark)}
    (hmarks : after.marks = session.openingMarks ++ (fresh ++ session.marks))
    (hfresh : countBy Mark.isPoll limit fresh = 0) (hphase : after.phase = session.openingPhase) :
    Spends limit session after := by
  have hone : after.pollsBy limit ≤ session.pollsBy limit + 1 := by
    have hopening := countBy_openingMarks_le session limit
    rw [pollsBy, hmarks, countBy_append, countBy_append, hfresh, pollsBy]
    omega
  refine ⟨hone, fun u hu => ?_⟩
  rw [hphase] at hu
  have hcost := Nat.mul_le_mul_right session.settings.receiveTimeout hone
  rw [Nat.succ_mul] at hcost
  rw [timer_openingPhase hu]
  omega

/-- A beat that begins no round sets a timer and costs nothing. -/
theorem spends_of_wait {limit ms : Nat} {session after : Session} {fresh : List (Nat × Mark)}
    (hmarks : after.marks = fresh ++ session.marks) (hfresh : countBy Mark.isPoll limit fresh = 0)
    (htimer : after.phase.timer = some (session.now + ms)) : Spends limit session after := by
  have hsame : after.pollsBy limit = session.pollsBy limit := by
    rw [pollsBy, hmarks, countBy_append, hfresh, Nat.zero_add, pollsBy]
  refine ⟨Nat.le_succ_of_le (Nat.le_of_eq hsame), fun u hu => ?_⟩
  rw [htimer, Option.mem_some_iff] at hu
  rw [hsame]
  omega

theorem Beat.spends {session after : Session} (h : Beat session after) (limit : Nat) :
    Spends limit session after := by
  cases h with
  | heard _ _ _ _ hmarks hafter =>
    have hfresh : countBy Mark.isPoll limit [(session.now, .datagram)] = 0 := rfl
    exact spends_of_opening hmarks hfresh hafter
  | paced _ _ _ _ _ hmarks hafter =>
    have hfresh : countBy Mark.isPoll limit [(session.now, .failure true)] = 0 := rfl
    exact spends_of_wait hmarks hfresh (congrArg Phase.timer hafter)
  | tolerated hfails _ hmarks hafter => exact spends_of_opening hmarks (hfails.countBy_isPoll limit) hafter
  | @outage failed inbox hfails _ hmarks hafter =>
    have hfresh : countBy Mark.isPoll limit ((session.now, .outage) :: failed) = 0 := by
      rw [countBy_cons, hfails.countBy_isPoll limit]
      rfl
    split at hafter
    · next hpulse =>
      rw [if_pos hpulse] at hmarks
      exact spends_of_opening hmarks hfresh hafter
    · next hpulse =>
      rw [if_neg hpulse] at hmarks
      exact spends_of_wait hmarks hfresh (congrArg Phase.timer hafter)
  | pulseEnd _ _ hmarks hafter =>
    have hfresh : countBy Mark.isPoll limit [] = 0 := rfl
    exact spends_of_opening hmarks hfresh hafter

/-! ## What a beat earns -/

/-- The timer is reached, or what has ended the receive early is worth what was left of the wait. -/
def Reached (limit : Nat) (session after : Session) : Prop :=
  ∃ u ∈ session.phase.timer, u + session.earlyBy limit * session.settings.receiveTimeout
    ≤ session.now + after.earlyBy limit * session.settings.receiveTimeout

theorem reached_of_due {limit u : Nat} {session after : Session} (hu : u ∈ session.phase.timer)
    (hdue : u ≤ session.now) (hearly : session.earlyBy limit ≤ after.earlyBy limit) :
    Reached limit session after :=
  ⟨u, hu, Nat.add_le_add hdue (Nat.mul_le_mul_right _ hearly)⟩

theorem reached_of_early {limit u : Nat} {session after : Session} (hu : u ∈ session.phase.timer)
    (hsoon : u ≤ session.now + session.settings.receiveTimeout)
    (hearly : session.earlyBy limit + 1 ≤ after.earlyBy limit) : Reached limit session after := by
  have hworth := Nat.mul_le_mul_right session.settings.receiveTimeout hearly
  rw [Nat.succ_mul] at hworth
  exact ⟨u, hu, by omega⟩

/-- A wake-up takes no datagram out of the account. -/
theorem datagramsBy_le_resume {session : Session} {time : Nat} (hwake : session.nextWake = some time)
    (limit : Nat) : session.datagramsBy limit ≤ (session.resume time).datagramsBy limit := by
  obtain ⟨fresh, hmarks, -⟩ := (beat_resume hwake).fresh
  rw [datagramsBy, datagramsBy, hmarks, countBy_append]
  exact Nat.le_add_left _ _

theorem earlyBy_le_resume {session : Session} {time : Nat} (hwake : session.nextWake = some time)
    (limit : Nat) : session.earlyBy limit ≤ (session.resume time).earlyBy limit :=
  Nat.add_le_add (datagramsBy_le_resume hwake limit) ((Move.wake hwake).silentFaultsBy_le limit)

/-- A receive waits for its timer, which is a receive's wait away at most. -/
theorem exists_timer_of_receiving {session : Session} (h : Attained session)
    (htimed : session.timed = true) {deadline : Option Nat}
    (hphase : session.phase = .receiving deadline) :
    ∃ u ∈ session.phase.timer, u ≤ session.now + session.settings.receiveTimeout := by
  obtain ⟨u, rfl⟩ := h.deadline htimed hphase
  have hu : u ∈ session.phase.timer := by
    rw [hphase]
    rfl
  exact ⟨u, hu, h.timer_le (by rw [pulses, hphase]) u hu⟩

/-- A receive that ends early earns what was left of its wait. -/
theorem reached_of_receiving {session : Session} {time limit : Nat} (h : Attained session)
    (htimed : session.timed = true) {deadline : Option Nat}
    (hphase : (session.atTime time).phase = .receiving deadline)
    (hearly : session.earlyBy limit + 1 ≤ (session.resume time).earlyBy limit) :
    Reached limit (session.atTime time) (session.resume time) := by
  obtain ⟨u, hu, hsoon⟩ := exists_timer_of_receiving h htimed hphase
  refine reached_of_early hu (Nat.le_trans hsoon ?_) hearly
  exact Nat.add_le_add_right (Nat.le_max_left _ _) _

section

variable {session : Session} {time limit : Nat} (h : Attained session) (htimed : session.timed = true)
  (hwake : session.nextWake = some time) (hlimit : (session.atTime time).now ≤ limit)

include h htimed hwake hlimit

/-- A failure is counted when the timer is reached, or behind a silent fault. -/
theorem reached_of_fails {failed : List (Nat × Mark)} {inbox : List Arrival}
    (hfails : (session.atTime time).Fails failed inbox) :
    Reached limit (session.atTime time) (session.resume time) := by
  have hgrows := earlyBy_le_resume hwake limit
  cases hfails with
  | silent hphase hhead hdue hfault hsilent =>
    refine reached_of_receiving h htimed hphase ?_
    have hresume : session.resume time = (session.atTime time).receive := by
      rw [resume, wake, hphase]
    have hfaults : session.silentFaultsBy limit + 1 ≤ (session.resume time).silentFaultsBy limit := by
      rw [hresume]
      exact silentFaultsBy_receive hhead hdue hfault hsilent hlimit
    have hdatagrams := datagramsBy_le_resume hwake limit
    rw [earlyBy, earlyBy]
    omega
  | expired hphase hdue => exact reached_of_due (by rw [hphase]; rfl) hdue hgrows
  | rested hphase hdue => exact reached_of_due (by rw [hphase]; rfl) hdue hgrows

/-- A wake-up finds the receive's wait paid for, or it puts the timer off to a receive's wait from then,
    without a poll. -/
theorem reached_or_paced : Reached limit (session.atTime time) (session.resume time)
    ∨ (session.resume time).pollsBy limit = session.pollsBy limit
      ∧ ∃ u ∈ session.phase.timer, u ≤ (session.atTime time).now + session.settings.receiveTimeout
        ∧ ∀ later ∈ (session.resume time).phase.timer, u ≤ later := by
  have hgrows := earlyBy_le_resume hwake limit
  cases beat_resume hwake with
  | heard hphase _ _ _ hmarks =>
    refine .inl (reached_of_receiving h htimed hphase ?_)
    have hdatagrams : session.datagramsBy limit + 1 ≤ (session.resume time).datagramsBy limit := by
      rw [datagramsBy, datagramsBy, hmarks, countBy_append, countBy_cons,
        if_pos (by simpa [Mark.isDatagram] using hlimit)]
      exact Nat.le_add_left _ _
    have hfaults := (Move.wake hwake).silentFaultsBy_le limit
    rw [earlyBy, earlyBy]
    omega
  | paced hphase _ _ _ _ hmarks hafter =>
    refine .inr ⟨by rw [pollsBy, hmarks]; rfl, ?_⟩
    obtain ⟨u, hu, hsoon⟩ := exists_timer_of_receiving h htimed hphase
    have hput : u ≤ (session.atTime time).now + session.settings.receiveTimeout :=
      Nat.le_trans hsoon (Nat.add_le_add_right (Nat.le_max_left _ _) _)
    refine ⟨u, hu, hput, fun later hlater => ?_⟩
    rw [hafter] at hlater
    exact Nat.le_trans hput (Nat.le_of_eq (Option.mem_some_iff.1 hlater))
  | tolerated hfails => exact .inl (reached_of_fails h htimed hwake hlimit hfails)
  | outage hfails => exact .inl (reached_of_fails h htimed hwake hlimit hfails)
  | pulseEnd hphase hdue => exact .inl (reached_of_due (by rw [hphase]; rfl) hdue hgrows)

end

/-! ## The account -/

/-- The polls are paid for, by the time since the start and by what has ended receives early: up to any
    time with one receive's wait on credit, and up to the timer without. -/
structure Metered (start : Nat) (session : Session) : Prop where
  polls : ∀ limit, start ≤ limit →
    session.pollsBy limit * session.settings.receiveTimeout + start
      ≤ limit + session.settings.receiveTimeout
        + session.earlyBy limit * session.settings.receiveTimeout
  timer : ∀ limit, session.now ≤ limit → ∀ u ∈ session.phase.timer,
    session.pollsBy limit * session.settings.receiveTimeout + start
      ≤ u + session.earlyBy limit * session.settings.receiveTimeout

theorem metered_launch (settings : Settings) (peer : SocketAddress) (network : Network) :
    Metered network.now (launch settings peer network) := by
  have hsetup := setup_launch settings peer network
  have hsettings : (launch settings peer network).settings = settings :=
    congrArg Setup.settings hsetup
  have hone : ∀ limit, (launch settings peer network).pollsBy limit ≤ 1 := by
    intro limit
    rw [pollsBy, marks_launch, countBy_cons]
    split <;> simp
  have hprice : ∀ limit, (launch settings peer network).pollsBy limit * settings.receiveTimeout
      ≤ settings.receiveTimeout := fun limit => by
    simpa using Nat.mul_le_mul_right settings.receiveTimeout (hone limit)
  constructor
  · intro limit hlimit
    have hprice := hprice limit
    rw [hsettings]
    omega
  · intro limit hlimit u hu
    have hprice := hprice limit
    rw [phase_launch, Phase.timer] at hu
    split at hu
    · rw [hsettings, ← Option.mem_some_iff.1 hu]
      omega
    · cases hu

/-- Whatever else happens leaves the polls and the timer, and takes nothing out of the account. -/
theorem Metered.idle {start : Nat} {session after : Session} (h : Metered start session)
    (hidle : session.Idle after)
    (hfaults : ∀ limit, session.silentFaultsBy limit ≤ after.silentFaultsBy limit) :
    Metered start after := by
  have hpolls : ∀ limit, after.pollsBy limit = session.pollsBy limit := fun limit => by
    rw [pollsBy, hidle.marks, pollsBy]
  have hearly : ∀ limit, session.earlyBy limit * session.settings.receiveTimeout
      ≤ after.earlyBy limit * session.settings.receiveTimeout := fun limit => by
    refine Nat.mul_le_mul_right _ (Nat.add_le_add (Nat.le_of_eq ?_) (hfaults limit))
    rw [datagramsBy, datagramsBy, hidle.marks]
  constructor
  · intro limit hlimit
    have hbefore := h.polls limit hlimit
    have hearly := hearly limit
    rw [hpolls, hidle.settings]
    omega
  · intro limit hlimit u hu
    rw [hidle.phase] at hu
    have hbefore := h.timer limit (Nat.le_trans hidle.now hlimit) u hu
    have hearly := hearly limit
    rw [hpolls, hidle.settings]
    omega

/-- Behind a wake-up the account holds for its time and for the new timer. -/
theorem Metered.paid {start time limit : Nat} {session : Session} (hmetered : Metered start session)
    (h : Attained session) (htimed : session.timed = true) (hwake : session.nextWake = some time)
    (hlimit : (session.atTime time).now ≤ limit) :
    (session.resume time).pollsBy limit * session.settings.receiveTimeout + start
        ≤ (session.atTime time).now + session.settings.receiveTimeout
          + (session.resume time).earlyBy limit * session.settings.receiveTimeout
      ∧ ∀ later ∈ (session.resume time).phase.timer,
        (session.resume time).pollsBy limit * session.settings.receiveTimeout + start
          ≤ later + (session.resume time).earlyBy limit * session.settings.receiveTimeout := by
  obtain ⟨hone, hnext⟩ := (beat_resume hwake).spends limit
  have hprice : (session.resume time).pollsBy limit * session.settings.receiveTimeout
      ≤ session.pollsBy limit * session.settings.receiveTimeout + session.settings.receiveTimeout := by
    have hcost := Nat.mul_le_mul_right session.settings.receiveTimeout hone
    rwa [Nat.succ_mul] at hcost
  have hbefore := hmetered.timer limit (Nat.le_trans (Nat.le_max_left _ _) hlimit)
  rcases reached_or_paced h htimed hwake hlimit with
    ⟨u, hu, hearned⟩ | ⟨hsame, u, hu, hsoon, hlater⟩
  · have hpaid : session.pollsBy limit * session.settings.receiveTimeout + start
        ≤ (session.atTime time).now
          + (session.resume time).earlyBy limit * session.settings.receiveTimeout :=
      Nat.le_trans (hbefore u hu) hearned
    refine ⟨by omega, fun later hmem => ?_⟩
    have hspent : (session.resume time).pollsBy limit * session.settings.receiveTimeout
        + (session.atTime time).now
          ≤ later + session.pollsBy limit * session.settings.receiveTimeout := hnext later hmem
    omega
  · have hgrows := Nat.mul_le_mul_right session.settings.receiveTimeout
      (earlyBy_le_resume hwake limit)
    have hbefore := hbefore u hu
    rw [hsame]
    refine ⟨by omega, fun later hmem => ?_⟩
    have hlater := hlater later hmem
    omega

/-- A wake-up spends no more than has been earned. -/
theorem Metered.resume {start time : Nat} {session : Session} (hmetered : Metered start session)
    (h : Attained session) (htimed : session.timed = true) (hwake : session.nextWake = some time) :
    Metered start (session.resume time) := by
  have hsettings : (session.resume time).settings = session.settings :=
    congrArg Setup.settings (setup_resume session time)
  have hnow : (session.resume time).now = (session.atTime time).now := now_resume session time
  constructor
  · intro limit hstart
    rw [hsettings]
    by_cases hlimit : (session.atTime time).now ≤ limit
    · have hpaid := (hmetered.paid h htimed hwake hlimit).1
      omega
    · -- What the wake-up adds comes later than the limit.
      obtain ⟨fresh, hmarks, hfresh⟩ := (beat_resume hwake).fresh
      have hlate : countBy Mark.isPoll limit fresh = 0 := countBy_of_late fun entry hentry => by
        rw [hfresh entry hentry]
        exact Nat.lt_of_not_le hlimit
      have hpolls : (session.resume time).pollsBy limit = session.pollsBy limit := by
        rw [pollsBy, hmarks, countBy_append, hlate, Nat.zero_add]
        rfl
      have hgrows := Nat.mul_le_mul_right session.settings.receiveTimeout
        (earlyBy_le_resume hwake limit)
      have hbefore := hmetered.polls limit hstart
      rw [hpolls]
      omega
  · intro limit hlimit
    rw [hsettings]
    exact (hmetered.paid h htimed hwake (hnow ▸ hlimit)).2

/-! ## The start of the exchange -/

/-- When the exchange began. -/
def startedAt? (session : Session) : Option Nat :=
  (session.network.journal.find? fun entry => entry.event.isStart).map Entry.time

/-- Nothing else is taken for the start. -/
theorem kept_start (peer : SocketAddress) (found : Option Entry) :
    Network.Kept peer fun network => network.journal.find? (fun entry => entry.event.isStart) = found where
  note network event _ hstart _ h := by
    rw [Network.note, List.find?_cons_of_neg (by simp [hstart])]
    exact h
  poll network vibrations h := by
    obtain ⟨event, htransmit, hevent, -⟩ := network.transmit_eq peer (.poll vibrations)
      (.pollFailed peer (.poll vibrations)) fun _ _ => ⟨rfl, rfl⟩
    have hstart : event.isStart = false := by
      rcases hevent with rfl | rfl <;> rfl
    rw [htransmit, Network.note, List.find?_cons_of_neg (by simp [hstart])]
    exact h
  inbox _ _ h := h
  clock _ _ h := h

theorem startedAt?_launch (settings : Settings) (peer : SocketAddress) (network : Network) :
    (launch settings peer network).startedAt? = some network.now := by
  have hkept := kept_start peer (some ⟨network.now, .exchangeStarted peer⟩)
  exact congrArg (Option.map Entry.time) (has_launch settings peer network hkept rfl).2

theorem Move.startedAt? {before after : Session} (h : Move before after) :
    after.startedAt? = before.startedAt? :=
  congrArg (Option.map Entry.time) (has_move (kept_start before.peer _) h ⟨rfl, rfl⟩).2

theorem startedAt?_nextKeystroke (session : Session) (selector : Selector) :
    (session.nextKeystroke selector).2.startedAt? = session.startedAt? :=
  congrArg (Option.map Entry.time)
    (has_nextKeystroke (kept_start session.peer _) selector ⟨rfl, rfl⟩).2

/-- At every instant of an exchange with timeouts its polls are paid for. -/
theorem Attained.metered {session : Session} (h : Attained session) (htimed : session.timed = true) :
    ∃ start, session.startedAt? = some start ∧ Metered start session := by
  induction h with
  | launched settings peer network =>
    exact ⟨network.now, startedAt?_launch settings peer network, metered_launch settings peer network⟩
  | moved hbefore hmove ih =>
    rcases hmove.wake_or_idle with ⟨time, hwake, rfl⟩ | hidle
    · have htimed := (congrArg Setup.timed (setup_resume _ time)).symm.trans htimed
      obtain ⟨start, hstart, hmetered⟩ := ih htimed
      exact ⟨start, hmove.startedAt?.trans hstart, hmetered.resume hbefore htimed hwake⟩
    · obtain ⟨start, hstart, hmetered⟩ := ih (hidle.timed.symm.trans htimed)
      exact ⟨start, hmove.startedAt?.trans hstart, hmetered.idle hidle hmove.silentFaultsBy_le⟩
  | @asked before hbefore selector ih =>
    have hidle := idle_nextKeystroke before selector
    obtain ⟨start, hstart, hmetered⟩ := ih (hidle.timed.symm.trans htimed)
    exact ⟨start, (startedAt?_nextKeystroke before selector).trans hstart, hmetered.idle hidle
      fun limit => silentFaultsBy_le_of_grows (writes_nextKeystroke before selector).grows limit⟩

/-- In a session whose receives have a timeout, which is a millisecond at least whatever the settings
    say, the polls that were tried within a time from the beginning of the exchange are no more than one,
    and one for each timeout in this time, and one for each datagram and each silent fault that came in
    by then. Faults of another kind bring none: whatever follows on such a failure comes a timeout later
    or more. -/
theorem polls_paid {session : Session} (h : Reachable session) (htimed : session.timed = true) :
    1 ≤ session.settings.receiveTimeout
      ∧ (∃ start, session.startedAt? = some start
        ∧ ∀ elapsed, session.pollsBy (start + elapsed)
          ≤ 1 + elapsed / session.settings.receiveTimeout + session.datagramsBy (start + elapsed)
            + session.silentFaultsBy (start + elapsed))
      ∧ session.marks.IsChain fun later earlier =>
        earlier.2 = .failure true → earlier.1 + session.settings.receiveTimeout ≤ later.1 := by
  have hpos := session.settings.receiveTimeout_pos
  obtain ⟨start, hstart, hmetered⟩ := h.attained.metered htimed
  refine ⟨hpos, ⟨start, hstart, fun elapsed => ?_⟩, ?_⟩
  · have hpaid := hmetered.polls (start + elapsed) (Nat.le_add_right _ _)
    have hwhole : session.pollsBy (start + elapsed)
        ≤ (elapsed + (1 + session.earlyBy (start + elapsed)) * session.settings.receiveTimeout)
          / session.settings.receiveTimeout := by
      refine (Nat.le_div_iff_mul_le hpos).2 ?_
      rw [Nat.add_mul, Nat.one_mul]
      omega
    rw [Nat.add_mul_div_right _ _ hpos, earlyBy] at hwhole
    omega
  · refine h.attained.onCourse.chain.imp fun later earlier hprecedes hpaced => ?_
    obtain ⟨start, mark⟩ := earlier
    obtain ⟨time, next⟩ := later
    obtain rfl : mark = .failure true := hpaced
    cases next with
    | poll receiver datagram => exact Nat.le_of_eq hprecedes.symm
    | outage => exact Nat.le_of_eq hprecedes.symm
    | datagram => cases hprecedes
    | failure paced => cases hprecedes

/-- A session with the shortest timeout, in which a silent fault, another fault and a datagram come in
    while the start waits. -/
def restlessSession : Session :=
  openWith { receiveTimeoutMs := 0, handshakeWaitMs := 5 } (.v4 IPv4.localhost 0)
    (.ofArrivals [⟨2, .fault .wouldBlock⟩, ⟨2, .fault .connectionReset⟩, ⟨4, .payload [9]⟩])

/-- The fault at two costs a millisecond, so six polls go out in five, where eight would be paid for. -/
theorem polls_paid_in_restlessSession : restlessSession.pollsBy 5 = 6
    ∧ restlessSession.pollsBy 5 ≤ 1 + 5 / 1 + restlessSession.datagramsBy 5
      + restlessSession.silentFaultsBy 5 := by
  have hfacts : restlessSession.startedAt? = some 0 ∧ restlessSession.timed = true
      ∧ restlessSession.settings.receiveTimeout = 1 ∧ restlessSession.pollsBy 5 = 6 := by
    decide +kernel
  obtain ⟨hzero, htimed, htimeout, hsix⟩ := hfacts
  have hreachable : Reachable restlessSession := .opened rfl rfl
  obtain ⟨-, ⟨start, hstart, hpolls⟩, -⟩ := polls_paid hreachable htimed
  obtain rfl : start = 0 := Option.some.inj (hstart.symm.trans hzero)
  have hfive := hpolls 5
  rw [htimeout, Nat.zero_add] at hfive
  exact ⟨hsix, hfive⟩

end Session

end PadLink
