import PadLink.Proofs.Session.Silence
import PadLink.Proofs.Session.Readiness
import PadLink.Proofs.Session.Looks

set_option autoImplicit false

/-! # Waits and pulses

A caller looks again at least twice within the readiness pulse, and the pulse lasts from its outage on
for as long as the settings say (`Attained.pulse_of_outage`), so a waiting caller cannot sleep through
it. `wait_ends_in_pulse` puts this together with what is known of the time of an outage. That the
caller is patient enough to see it rests on a bound that holds whatever comes in (`Bounded`): each
delivery under way puts an outage off by the longest silence at most. If no datagram comes in at all,
one such silence is the bound. -/

namespace PadLink.Session

/-! ## From an instant on -/

/-- What every beat keeps that comes later than a caller's instant holds however long time passes. -/
theorem Settled.follow_induction {P : Session → Prop} {session : Session} (hattained : Attained session)
    (hsettled : session.Settled) (hsession : P session)
    (hbeat : ∀ before after time, Attained before → before.nextWake = some time →
      before.setup = { session.setup with now := before.now } →
      session.now < (before.atTime time).now → Beat (before.atTime time) after →
      after.setup = (before.atTime time).setup → P before → P after)
    (horizon : Nat) (enough : Session → Bool) : P (session.follow horizon enough) := by
  suffices hgoes : ∀ other, Attained other →
      other.setup = { session.setup with now := other.now } →
      (∀ wake ∈ other.nextWake, session.now < (other.atTime wake).now) → P other →
      P (other.follow horizon enough) by
    refine hgoes session hattained rfl (fun wake hwake => ?_) hsession
    exact Nat.lt_of_lt_of_le (hsettled wake hwake) (Nat.le_max_right _ _)
  intro other
  fun_induction follow horizon enough other with
  | case1 other hnone => exact fun _ _ _ hother => hother
  | case2 other time hwake hdue ih =>
    intro hother hsetup hlater hP
    have hafter := setup_resume other time
    have hnow : (other.resume time).now = (other.atTime time).now := congrArg Setup.now hafter
    refine ih (hother.resume hwake) ?_ (fun wake _ => ?_) ?_
    · have hclock : (other.atTime time).setup
          = { other.setup with now := (other.atTime time).now } := rfl
      rw [hafter, hclock, hsetup, ← hnow]
    · have hpast : session.now < (other.resume time).now := by
        rw [hnow]
        exact hlater time hwake
      exact Nat.lt_of_lt_of_le hpast (Nat.le_max_left _ _)
    · exact hbeat other _ time hother hwake hsetup (hlater time hwake) (beat_resume hwake) hafter hP
  | case3 other time hwake hdue => exact fun _ _ _ hother => hother

/-- What is marked while time passes comes in front, and is later than the caller's instant. -/
theorem marks_advanceTo {session : Session} (h : Attained session) (hsettled : session.Settled)
    (time : Nat) : ∃ fresh, (session.advanceTo time).marks = fresh ++ session.marks
      ∧ ∀ entry ∈ fresh, session.now < entry.1 := by
  show ∃ fresh, (session.follow time fun _ => false).marks = fresh ++ session.marks ∧ _
  refine hsettled.follow_induction (P := fun after => ∃ fresh, after.marks = fresh ++ session.marks
    ∧ ∀ entry ∈ fresh, session.now < entry.1) h ⟨[], rfl, by simp⟩ ?_ time _
  rintro before after wake - - - hlater hbeat - ⟨fresh, hmarks, hfresh⟩
  obtain ⟨latest, hafter, hlatest⟩ := hbeat.fresh
  have hbefore : (before.atTime wake).marks = fresh ++ session.marks := hmarks
  refine ⟨latest ++ fresh, by rw [hafter, hbefore, List.append_assoc], ?_⟩
  intro entry hentry
  rcases List.mem_append.1 hentry with hentry | hentry
  · rw [hlatest entry hentry]
    exact hlater
  · exact hfresh entry hentry

section

variable {session : Session} {entry : Nat × Mark} {time later : Nat}

/-- Marks stay. -/
theorem mem_marks_advanceTo (h : Attained session) (hsettled : session.Settled)
    (hmem : entry ∈ session.marks) (time : Nat) : entry ∈ (session.advanceTo time).marks := by
  obtain ⟨fresh, hmarks, -⟩ := marks_advanceTo h hsettled time
  rw [hmarks]
  exact List.mem_append_right _ hmem

variable (h : Reachable session) (hnow : session.now ≤ time)

include h hnow

theorem settled_at (hopen : session.closing = false) : (session.advanceTo time).Settled :=
  (h.advanceTo hnow).settled ((congrArg Setup.closing (setup_advanceTo hnow)).trans hopen)

/-- A mark is there from its own time on. -/
theorem mem_marks_at (hopen : session.closing = false) (hlater : time ≤ later)
    (hmem : entry ∈ (session.advanceTo later).marks) (htime : entry.1 = time) :
    entry ∈ (session.advanceTo time).marks := by
  obtain ⟨fresh, hmarks, hfresh⟩ :=
    marks_advanceTo (h.advanceTo hnow).attained (settled_at h hnow hopen) later
  rw [advanceTo_advanceTo session hlater] at hmarks
  rw [hmarks] at hmem
  rcases List.mem_append.1 hmem with hmem | hmem
  · have hcontra := hfresh entry hmem
    rw [now_advanceTo hnow] at hcontra
    omega
  · exact hmem

end

/-! ## The pulse behind an outage -/

theorem mem_append_of_routine {fresh earlier : List (Nat × Mark)} {entry : Nat × Mark}
    (hfresh : ∀ entry ∈ fresh, entry.2.isRoutine = true) (hentry : entry.2.isRoutine = false) :
    entry ∈ fresh ++ earlier ↔ entry ∈ earlier := by
  rw [List.mem_append, or_iff_right]
  intro hmem
  rw [hfresh entry hmem] at hentry
  cases hentry

/-- A beat declares an outage only at its own time, and then begins the pulse if that has a length. -/
theorem Beat.of_outage {session after : Session} (h : Beat session after) {lost : Nat}
    (hmem : (lost, .outage) ∈ after.marks) :
    (lost, .outage) ∈ session.marks
      ∨ lost = session.now ∧ (0 < session.settings.readyPulse →
        after.phase = .pulsing (session.now + session.settings.readyPulse)) := by
  have hopening : ∀ entry ∈ session.openingMarks, entry.2.isRoutine = true :=
    fun _ => isRoutine_of_mem_opening
  cases h with
  | heard _ _ _ _ hmarks =>
    rw [hmarks, mem_append_of_routine hopening rfl] at hmem
    exact Or.inl ((List.mem_cons.1 hmem).resolve_left (by simp))
  | paced _ _ _ _ _ hmarks =>
    rw [hmarks] at hmem
    exact Or.inl ((List.mem_cons.1 hmem).resolve_left (by simp))
  | tolerated hfails _ hmarks =>
    rw [hmarks, mem_append_of_routine hopening rfl, mem_append_of_routine hfails.isRoutine rfl] at hmem
    exact Or.inl hmem
  | pulseEnd _ _ hmarks =>
    rw [hmarks, mem_append_of_routine hopening rfl] at hmem
    exact Or.inl hmem
  | outage hfails _ hmarks hafter =>
    have hfresh : ∀ entry ∈ (if session.settings.readyPulse = 0 then session.openingMarks else []),
        entry.2.isRoutine = true := by
      intro entry hentry
      split at hentry
      · exact hopening entry hentry
      · cases hentry
    rw [hmarks, mem_append_of_routine hfresh rfl] at hmem
    rcases List.mem_cons.1 hmem with heq | hmem
    · refine Or.inr ⟨congrArg Prod.fst heq, fun hpulse => ?_⟩
      rw [hafter, if_neg (Nat.ne_of_gt hpulse)]
    · rw [mem_append_of_routine hfails.isRoutine rfl] at hmem
      exact Or.inl hmem

/-- Until the length of the pulse has gone by since an outage, the exchange holds the pulse. -/
theorem Attained.pulse_of_outage {session : Session} (h : Attained session)
    (hpulse : 0 < session.settings.readyPulse) {lost : Nat} (hmem : (lost, .outage) ∈ session.marks) :
    session.phase = .pulsing (lost + session.settings.readyPulse)
      ∨ lost + session.settings.readyPulse ≤ session.now := by
  refine Attained.induction (P := fun session => 0 < session.settings.readyPulse →
    (lost, .outage) ∈ session.marks → session.phase = .pulsing (lost + session.settings.readyPulse)
      ∨ lost + session.settings.readyPulse ≤ session.now) ?_ ?_ ?_ h hpulse hmem
  · intro settings peer network _ hmem
    rw [marks_launch] at hmem
    cases List.mem_singleton.1 hmem
  · intro before after time _ _ hbeat hsetup hbefore hpulse hmem
    have hsettings : after.settings = before.settings := congrArg Setup.settings hsetup
    have hnow : after.now = (before.atTime time).now := congrArg Setup.now hsetup
    have hclock : before.now ≤ (before.atTime time).now := Nat.le_max_left _ _
    rw [hsettings] at hpulse ⊢
    rw [hnow]
    rcases hbeat.of_outage hmem with hearlier | ⟨rfl, hphase⟩
    · -- A pulse that was held has ended with this beat.
      rcases hbefore hpulse hearlier with hheld | hover
      · obtain ⟨⟨u, hu, hdue⟩, -⟩ := hbeat.of_pulses (by simp only [pulses, atTime, hheld])
        have hsame : Phase.pulsing u = .pulsing (lost + before.settings.readyPulse) :=
          hu.symm.trans hheld
        rw [← Phase.pulsing.inj hsame]
        exact Or.inr hdue
      · exact Or.inr (Nat.le_trans hover hclock)
    · exact Or.inl (hphase hpulse)
  · intro before after hidle hbefore hpulse hmem
    rw [hidle.settings] at hpulse ⊢
    rw [hidle.marks] at hmem
    rw [hidle.phase]
    exact (hbefore hpulse hmem).imp_right fun hover => Nat.le_trans hover hidle.now

/-- There is no pulse that has no length. -/
theorem Attained.readyPulse_pos {session : Session} (h : Attained session)
    (hpulses : session.pulses = true) : 0 < session.settings.readyPulse := by
  refine Attained.induction (P := fun session => session.pulses = true →
    0 < session.settings.readyPulse) ?_ ?_ ?_ h hpulses
  · intro settings peer network hpulses
    rw [pulses, phase_launch] at hpulses
    cases hpulses
  · intro before after time _ _ hbeat hsetup _ hpulses
    have hsettings : after.settings = (before.atTime time).settings := congrArg Setup.settings hsetup
    rw [hsettings]
    cases hbeat with
    | heard _ _ _ _ _ hafter => rw [pulses_of_opening hafter] at hpulses; cases hpulses
    | paced _ _ _ _ _ _ hafter => rw [pulses, hafter] at hpulses; cases hpulses
    | tolerated _ _ _ hafter => rw [pulses_of_opening hafter] at hpulses; cases hpulses
    | pulseEnd _ _ _ hafter => rw [pulses_of_opening hafter] at hpulses; cases hpulses
    | outage _ _ _ hafter =>
      refine Nat.pos_of_ne_zero fun hzero => ?_
      rw [if_pos hzero] at hafter
      rw [pulses_of_opening hafter] at hpulses
      cases hpulses
  · intro before after hidle hbefore hpulses
    rw [hidle.settings]
    refine hbefore ?_
    rw [pulses, hidle.phase] at hpulses
    exact hpulses

/-! ## How long an outage can be put off -/

/-- Outside a pulse the timer is a receive's wait away at most. -/
theorem Attained.timer_le {session : Session} (h : Attained session) (hpulses : session.pulses = false) :
    ∀ u ∈ session.phase.timer, u ≤ session.now + session.settings.receiveTimeout := by
  refine Attained.induction (P := fun session => session.pulses = false →
    ∀ u ∈ session.phase.timer, u ≤ session.now + session.settings.receiveTimeout) ?_ ?_ ?_ h hpulses
  · intro settings peer network _ u hu
    have hsetup := setup_launch settings peer network
    have hnow : (launch settings peer network).now = network.now := congrArg Setup.now hsetup
    have hsettings : (launch settings peer network).settings = settings :=
      congrArg Setup.settings hsetup
    rw [phase_launch, Phase.timer] at hu
    rw [hnow, hsettings]
    split at hu
    · exact Nat.le_of_eq (Option.mem_some_iff.1 hu).symm
    · cases hu
  · intro before after time _ _ hbeat hsetup _ hpulses u hu
    have hsettings : after.settings = (before.atTime time).settings := congrArg Setup.settings hsetup
    have hnow : after.now = (before.atTime time).now := congrArg Setup.now hsetup
    rw [hnow, hsettings]
    cases hbeat with
    | heard _ _ _ _ _ hafter => rw [hafter] at hu; exact Nat.le_of_eq (timer_openingPhase hu)
    | paced _ _ _ _ _ _ hafter =>
      rw [hafter] at hu
      exact Nat.le_of_eq (Option.mem_some_iff.1 hu).symm
    | tolerated _ _ _ hafter => rw [hafter] at hu; exact Nat.le_of_eq (timer_openingPhase hu)
    | pulseEnd _ _ _ hafter => rw [hafter] at hu; exact Nat.le_of_eq (timer_openingPhase hu)
    | outage _ _ _ hafter =>
      split at hafter
      · rw [hafter] at hu
        exact Nat.le_of_eq (timer_openingPhase hu)
      · rw [pulses, hafter] at hpulses
        cases hpulses
  · intro before after hidle hbefore hpulses u hu
    rw [hidle.phase] at hu
    rw [pulses, hidle.phase] at hpulses
    rw [hidle.settings]
    exact Nat.le_trans (hbefore hpulses u hu) (Nat.add_le_add_right hidle.now _)

/-- The reserve leaves room for one more wait within the longest silence. -/
theorem reserve_add_le (session : Session) :
    session.reserve + session.settings.receiveTimeout ≤ session.settings.longestSilence := by
  have hround : session.settings.longestSilence
      = (2 * session.settings.toleratedTimeouts.toNat + 1) * session.settings.receiveTimeout
        + session.settings.receiveTimeout := by
    rw [Settings.longestSilence]
    ring
  rw [hround]
  refine Nat.add_le_add_right ?_ _
  unfold reserve
  split
  · exact Nat.mul_le_mul_right _ (by omega)
  · exact Nat.mul_le_mul_right _ (by omega)
  all_goals exact Nat.zero_le _

/-- Neither a pulse is held, nor was there an outage since the given time. -/
structure Spared (since : Nat) (session : Session) : Prop where
  quiet : session.pulses = false
  earlier : ∀ lost, (lost, .outage) ∈ session.marks → lost ≤ since

/-- There was an outage later than the one time and not later than the other. -/
def LostWithin (since limit : Nat) (session : Session) : Prop :=
  ∃ lost, since < lost ∧ lost ≤ limit ∧ (lost, .outage) ∈ session.marks

/-- There was a datagram later than the given time. -/
def HeardSince (since : Nat) (session : Session) : Prop :=
  ∃ time, since < time ∧ (time, .datagram) ∈ session.marks

/-- A beat takes no mark away. -/
theorem Beat.mem_marks {session after : Session} (h : Beat session after) {entry : Nat × Mark}
    (hmem : entry ∈ session.marks) : entry ∈ after.marks := by
  obtain ⟨fresh, hmarks, -⟩ := h.fresh
  rw [hmarks]
  exact List.mem_append_right _ hmem

theorem Beat.lostWithin {since limit : Nat} {session after : Session} (h : Beat session after)
    (hlost : LostWithin since limit session) : LostWithin since limit after := by
  obtain ⟨lost, hsince, hlimit, hmem⟩ := hlost
  exact ⟨lost, hsince, hlimit, h.mem_marks hmem⟩

theorem Beat.heardSince {since : Nat} {session after : Session} (h : Beat session after)
    (hheard : HeardSince since session) : HeardSince since after := by
  obtain ⟨time, hsince, hmem⟩ := hheard
  exact ⟨time, hsince, h.mem_marks hmem⟩

theorem Spared.of_routine {since : Nat} {session after : Session} {fresh : List (Nat × Mark)}
    (h : Spared since session) (hquiet : after.pulses = false)
    (hfresh : ∀ entry ∈ fresh, entry.2.isRoutine = true)
    (hmarks : after.marks = fresh ++ session.marks) : Spared since after := by
  refine ⟨hquiet, fun lost hmem => h.earlier lost ?_⟩
  rwa [hmarks, mem_append_of_routine hfresh rfl] at hmem

/-- A bound on the time of an outage, whatever comes in: every delivery may cost the longest silence,
    and the last one is due by the given time. -/
structure Bounded (last limit : Nat) (session : Session) : Prop where
  arrivals : ∀ arrival ∈ session.network.inbox, arrival.time ≤ last
  clock : max last session.now + session.network.inbox.length * session.settings.longestSilence
    + session.reserve ≤ limit
  timer : ∀ u ∈ session.phase.timer,
    u + session.network.inbox.length * session.settings.longestSilence + session.reserve ≤ limit

theorem le_foldl_max (inbox : List Arrival) (time : Nat) :
    time ≤ inbox.foldl (fun time arrival => max time arrival.time) time
      ∧ ∀ arrival ∈ inbox, arrival.time ≤ inbox.foldl (fun time arrival => max time arrival.time) time := by
  induction inbox generalizing time with
  | nil => exact ⟨Nat.le_refl _, by simp⟩
  | cons head rest ih =>
    obtain ⟨htime, hrest⟩ := ih (max time head.time)
    rw [List.foldl_cons]
    refine ⟨Nat.le_trans (Nat.le_max_left _ _) htime, ?_⟩
    intro arrival harrival
    rcases List.mem_cons.1 harrival with rfl | harrival
    · exact Nat.le_trans (Nat.le_max_right _ _) htime
    · exact hrest arrival harrival

/-- A caller's patience is bounded so from the beginning. -/
theorem Attained.bounded {session : Session} (h : Attained session) (hpulses : session.pulses = false) :
    ∃ last, Bounded last session.settledBy session := by
  obtain ⟨hnow, harrivals⟩ := le_foldl_max session.network.inbox session.now
  have htimer := h.timer_le hpulses
  have hreserve := reserve_add_le session
  generalize hlast : session.network.inbox.foldl (fun time arrival => max time arrival.time) session.now
    = last at hnow harrivals
  have hsettled : last + (session.network.inbox.length + 2) * session.settings.longestSilence
      ≤ session.settledBy := by
    have hround : session.settings.longestSilence ≤
        (session.settings.toleratedTimeouts.toNat + 2) * (2 * session.settings.receiveTimeout)
          + session.settings.readyPulse := by
      have hmore : session.settings.longestSilence + 2 * session.settings.receiveTimeout
          = (session.settings.toleratedTimeouts.toNat + 2) * (2 * session.settings.receiveTimeout) := by
        rw [Settings.longestSilence]
        ring
      omega
    unfold settledBy
    rw [hlast]
    exact Nat.add_le_add_left (Nat.mul_le_mul_left _ hround) _
  rw [Nat.add_mul] at hsettled
  refine ⟨last, harrivals, ?_, ?_⟩
  · rw [Nat.max_eq_left hnow]
    omega
  · intro u hu
    have := htimer u hu
    omega

/-- A wake-up comes with the timer at the latest, or with a delivery. -/
theorem nextWake_le {session : Session} {wake : Nat} (h : session.nextWake = some wake) :
    (∃ u ∈ session.phase.timer, wake ≤ u) ∨ ∃ arrival ∈ session.network.inbox, wake = arrival.time := by
  unfold nextWake at h
  split at h
  · next deadline arrival hphase hhead =>
    refine Or.inl ⟨deadline, by rw [hphase]; rfl, ?_⟩
    rw [← Option.some.inj h]
    exact Nat.min_le_right _ _
  · next arrival hphase hhead =>
    exact Or.inr ⟨arrival, List.mem_of_mem_head? hhead, (Option.some.inj h).symm⟩
  · exact Or.inl ⟨wake, h, Nat.le_refl _⟩

/-- A wake-up comes within the bound. -/
theorem Bounded.atTime {last limit : Nat} {session : Session} {wake : Nat}
    (h : Bounded last limit session) (hwake : session.nextWake = some wake) :
    max last (session.atTime wake).now
      + session.network.inbox.length * session.settings.longestSilence + session.reserve ≤ limit := by
  have hclock := h.clock
  have hnow : (session.atTime wake).now = max session.now wake := rfl
  rw [hnow]
  rcases nextWake_le hwake with ⟨u, hu, hle⟩ | ⟨arrival, hmem, rfl⟩
  · have := h.timer u hu
    omega
  · have := h.arrivals _ hmem
    omega

/-- A beat keeps the bound or is the outage. -/
theorem Spent.bounded {since last limit : Nat} {session after : Session} (h : Spent session after)
    (hsettings : after.settings = session.settings) (hnow : after.now = session.now)
    (hsince : since < session.now) (hspared : Spared since session)
    (harrivals : ∀ arrival ∈ session.network.inbox, arrival.time ≤ last)
    (hlimit : max last session.now
      + session.network.inbox.length * session.settings.longestSilence + session.reserve ≤ limit) :
    LostWithin since limit after ∨ Spared since after ∧ Bounded last limit after := by
  have htail : ∀ arrival ∈ session.network.inbox.tail, arrival.time ≤ last :=
    fun arrival hmem => harrivals arrival (List.mem_of_mem_tail hmem)
  cases h with
  | heard hfresh hmarks hquiet hsome hinbox hreserve htimer =>
    have hlength : session.network.inbox.length = after.network.inbox.length + 1 := by
      rw [hinbox, List.length_tail]
      have := List.length_pos_iff.2 hsome
      omega
    rw [hlength, Nat.succ_mul] at hlimit
    refine Or.inr ⟨⟨hquiet, fun lost hmem => hspared.earlier lost ?_⟩, hinbox ▸ htail, ?_, ?_⟩
    · rw [hmarks, mem_append_of_routine hfresh rfl] at hmem
      exact (List.mem_cons.1 hmem).resolve_left (by simp)
    · rw [hsettings, hnow]
      omega
    · intro u hu
      have := htimer u hu
      rw [hsettings]
      omega
  | lost hfresh _ hmarks _ =>
    refine Or.inl ⟨session.now, hsince, by omega, ?_⟩
    rw [hmarks]
    exact List.mem_append_right _ List.mem_cons_self
  | went hfresh hmarks hquiet hinbox hreserve htimer =>
    have hlength : after.network.inbox.length * session.settings.longestSilence
        ≤ session.network.inbox.length * session.settings.longestSilence := by
      refine Nat.mul_le_mul_right _ ?_
      rcases hinbox with hinbox | hinbox
      · rw [hinbox]
      · rw [hinbox, List.length_tail]
        exact Nat.sub_le _ _
    refine Or.inr ⟨hspared.of_routine hquiet hfresh hmarks, ?_, ?_, ?_⟩
    · rcases hinbox with hinbox | hinbox
      · rw [hinbox]
        exact harrivals
      · rw [hinbox]
        exact htail
    · rw [hsettings, hnow]
      omega
    · intro u hu
      have := htimer u hu
      rw [hsettings]
      omega

/-- From a caller's instant on, an outage comes by the time at which a patient caller gives up, or it
    does not come at all. -/
theorem Attained.lost_or_spared {session : Session} (h : Attained session)
    (hsettled : session.Settled) (hpulses : session.pulses = false)
    (htolerated : session.settings.toleratedTimeouts.toNat < failureCap) (time : Nat) :
    LostWithin session.now session.settledBy (session.advanceTo time)
      ∨ Spared session.now (session.advanceTo time) := by
  obtain ⟨last, hbounded⟩ := h.bounded hpulses
  have hspared : Spared session.now session :=
    ⟨hpulses, fun lost hmem => h.marked (lost, .outage) hmem⟩
  suffices hfollow : LostWithin session.now session.settledBy (session.follow time fun _ => false)
      ∨ Spared session.now (session.follow time fun _ => false)
        ∧ Bounded last session.settledBy (session.follow time fun _ => false) by
    exact hfollow.imp id fun hrest => ⟨hrest.1.quiet, hrest.1.earlier⟩
  refine hsettled.follow_induction (P := fun after => LostWithin session.now session.settledBy after
    ∨ Spared session.now after ∧ Bounded last session.settledBy after) h
    (Or.inr ⟨hspared, hbounded⟩) ?_ time _
  rintro before after wake hattained hwake hsetup hlater hbeat hafter (hlost | ⟨hspared, hbounded⟩)
  · exact Or.inl (hbeat.lostWithin hlost)
  · have hsettings : before.settings = session.settings := congrArg Setup.settings hsetup
    have hkept : after.settings = before.settings := congrArg Setup.settings hafter
    rw [← hsettings] at htolerated
    have hspent := hbeat.spent hkept hspared.quiet htolerated (hattained.failures_le htolerated)
    exact hspent.bounded hkept (congrArg Setup.now hafter) hlater ⟨hspared.quiet, hspared.earlier⟩
      hbounded.arrivals (hbounded.atTime hwake)

/-- What is left of the silence ends by the limit. -/
structure Waning (since limit : Nat) (session : Session) : Prop where
  spared : Spared since session
  timer : ∀ u ∈ session.phase.timer, u + session.reserve ≤ limit

/-- A beat takes its time from what is left of the silence, or ends it. -/
theorem Spent.waning {since limit : Nat} {session after : Session} (h : Spent session after)
    (hsince : since < session.now) (hspared : Spared since session)
    (hlimit : session.now + session.reserve ≤ limit) :
    (LostWithin since limit after ∨ HeardSince since after) ∨ Waning since limit after := by
  cases h with
  | heard _ hmarks =>
    refine Or.inl (Or.inr ⟨session.now, hsince, ?_⟩)
    rw [hmarks]
    exact List.mem_append_right _ List.mem_cons_self
  | lost _ _ hmarks _ =>
    refine Or.inl (Or.inl ⟨session.now, hsince, by omega, ?_⟩)
    rw [hmarks]
    exact List.mem_append_right _ List.mem_cons_self
  | went hfresh hmarks hquiet _ _ hspent =>
    refine Or.inr ⟨hspared.of_routine hquiet hfresh hmarks, fun v hv => ?_⟩
    exact Nat.le_trans (hspent v hv) hlimit

/-- A session with timeouts goes on by the limit as long as something is left of the silence. -/
theorem Waning.exists_nextWake {since limit : Nat} {session : Session} (h : Waning since limit session)
    (hattained : Attained session) (hopen : session.closing = false) (htimed : session.timed = true) :
    ∃ wake ∈ session.nextWake, wake ≤ limit := by
  obtain ⟨u, hu⟩ := hattained.timer hopen htimed
  obtain ⟨wake, hwake, hle⟩ := exists_nextWake_le hu
  exact ⟨wake, hwake, Nat.le_trans hle (Nat.le_trans (Nat.le_add_right _ _) (h.timer u hu))⟩

/-- From a caller's instant on there is an outage within the longest silence, or a datagram comes. -/
theorem Attained.lost_or_heard {session : Session} (h : Attained session)
    (hsettled : session.Settled) (hopen : session.closing = false) (htimed : session.timed = true)
    (hpulses : session.pulses = false)
    (htolerated : session.settings.toleratedTimeouts.toNat < failureCap) :
    let limit := session.now + session.settings.longestSilence
    LostWithin session.now limit (session.advanceTo limit)
      ∨ HeardSince session.now (session.advanceTo limit) := by
  intro limit
  have hbegin : Waning session.now limit session := by
    refine ⟨⟨hpulses, fun lost hmem => h.marked (lost, .outage) hmem⟩, fun u hu => ?_⟩
    have htime := h.timer_le hpulses u hu
    have hreserve := reserve_add_le session
    omega
  have hfollow : (LostWithin session.now limit (session.follow limit fun _ => false)
      ∨ HeardSince session.now (session.follow limit fun _ => false))
      ∨ Waning session.now limit (session.follow limit fun _ => false) := by
    refine hsettled.follow_induction (P := fun after => (LostWithin session.now limit after
      ∨ HeardSince session.now after) ∨ Waning session.now limit after) h (Or.inr hbegin) ?_ limit _
    rintro before after wake hattained hwake hsetup hlater hbeat hafter
      ((hlost | hheard) | ⟨hspared, htimer⟩)
    · exact Or.inl (Or.inl (hbeat.lostWithin hlost))
    · exact Or.inl (Or.inr (hbeat.heardSince hheard))
    · have hsettings : before.settings = session.settings := congrArg Setup.settings hsetup
      rw [← hsettings] at htolerated
      obtain ⟨u, hu⟩ := hattained.timer ((congrArg Setup.closing hsetup).trans hopen)
        ((congrArg Setup.timed hsetup).trans htimed)
      have hleft := Nat.le_trans (Nat.add_le_add_right (hattained.now_atTime_le hwake u hu) _)
        (htimer u hu)
      exact (hbeat.spent (congrArg Setup.settings hafter) hspared.quiet htolerated
        (hattained.failures_le htolerated)).waning hlater ⟨hspared.quiet, hspared.earlier⟩ hleft
  -- By the limit nothing is left, since then the next wake-up lies behind it.
  refine hfollow.resolve_right fun hwaning => ?_
  have hattained : Attained (session.follow limit fun _ => false) :=
    (leads_follow limit _ session).induction (fun _ _ hmove hbefore => hbefore.moved hmove) h
  obtain ⟨last, hlast⟩ := setup_follow limit (fun _ => false) session
  obtain ⟨wake, hwake, hle⟩ := hwaning.exists_nextWake hattained
    ((congrArg Setup.closing hlast).trans hopen) ((congrArg Setup.timed hlast).trans htimed)
  exact absurd (lt_nextWake_follow session limit wake hwake) (Nat.not_lt_of_le hle)

/-! ## Waits -/

theorem Reachable.pulses_of_not_ready {session : Session} (h : Reachable session)
    (hready : session.bank.ready = false) : session.pulses = false := by
  refine Bool.eq_false_iff.2 fun hpulses => ?_
  rw [(h.announced.pulse hpulses).1] at hready
  cases hready

/-- Steps of one length reach a later time with less than one step to spare. -/
theorem exists_step_behind {start time step : Nat} (hstep : 0 < step) (htime : start < time) :
    ∃ count, (∀ earlier < count, start + earlier * step < time)
      ∧ time ≤ start + count * step ∧ start + count * step < time + step := by
  have hfit := Nat.div_mul_le_self (time - start - 1) step
  have hover := Nat.lt_mul_div_succ (time - start - 1) hstep
  rw [Nat.mul_comm] at hover
  refine ⟨(time - start - 1) / step + 1, ?_, by omega, by rw [Nat.succ_mul]; omega⟩
  intro earlier hearlier
  have := Nat.mul_le_mul_right step (Nat.le_of_lt_succ hearlier)
  omega

section

variable {session : Session} (h : Reachable session) (hopen : session.closing = false)

include h hopen

/-- A caller that waits has not found readiness. -/
theorem not_ready_of_waitsUntil {time : Nat} (hwaits : session.WaitsUntil time)
    (htime : session.now < time) : session.bank.ready = false := by
  refine Bool.eq_false_iff.2 fun hready => ?_
  have hwait : session.waitReady = some (.ok (), session) :=
    lookForReady_of_ready (h.attained.check_eq_ok hopen) hready
  exact absurd (hwaits _ _ hwait) (by omega)

/-- Of the outages by some time, the first that a caller waits for comes before its patience ends. -/
theorem exists_outage {lost : Nat} (hlost : session.now < lost)
    (hmem : (lost, .outage) ∈ (session.advanceTo lost).marks) (hready : session.bank.ready = false) :
    ∃ first, session.now < first ∧ first ≤ lost ∧ first ≤ session.settledBy
      ∧ (first, .outage) ∈ (session.advanceTo first).marks := by
  have hnow := Nat.le_of_lt hlost
  have hattained := (h.advanceTo hnow).attained
  have htolerated : session.settings.toleratedTimeouts.toNat < failureCap := by
    obtain ⟨later, earlier, hmarks⟩ := List.append_of_mem hmem
    obtain ⟨-, -, -, -, hcap, -⟩ := hattained.failure_of_outage hmarks
    rwa [settings_advanceTo hnow] at hcap
  rcases h.attained.lost_or_spared (h.settled hopen) (h.pulses_of_not_ready hready) htolerated lost
    with ⟨first, hfirst, hlimit, hfirstMem⟩ | hspared
  · have hle := hattained.marked _ hfirstMem
    rw [now_advanceTo hnow] at hle
    exact ⟨first, hfirst, hle, hlimit,
      mem_marks_at h (Nat.le_of_lt hfirst) hopen hle hfirstMem rfl⟩
  · exact absurd (hspared.earlier lost hmem) (by omega)

/-- What a look finds has all the marks from before. -/
theorem mem_marks_look {time count : Nat} {entry : Nat × Mark} (hafter : session.now ≤ time)
    (htime : time ≤ (session.look count).now) (hmem : entry ∈ (session.advanceTo time).marks) :
    entry ∈ (session.look count).marks := by
  rw [now_look] at htime
  have hmarks := mem_marks_advanceTo (h.advanceTo hafter).attained (settled_at h hafter hopen) hmem
    (session.now + count * session.settings.readyPoll)
  rwa [advanceTo_advanceTo session htime] at hmarks

omit h hopen in
/-- A caller without a limit of its own still looks when everything has settled. -/
theorem lt_patience {time count : Nat} (hnone : session.settings.readyTimeout = none)
    (htime : time ≤ session.settledBy)
    (hearlier : ∀ earlier < count, session.now + earlier * session.settings.readyPoll < time) :
    count < session.patience := by
  have hpatience : session.patience
      = (session.settledBy - session.now) / session.settings.readyPoll + 2 := by
    simp only [patience, hnone, Option.getD_none]
  refine Nat.lt_of_not_le fun hover => ?_
  have hlast := hearlier
    ((session.settledBy - session.now) / session.settings.readyPoll + 1) (by omega)
  have hpassed := Nat.lt_mul_div_succ (session.settledBy - session.now)
    session.settings.readyPoll_pos
  rw [Nat.mul_comm] at hpassed
  omega

/-- A caller that still waits when an outage is declared finds readiness in the pulse. -/
theorem waitReady_of_outage {lost : Nat} (hpulse : 0 < session.settings.readyPulse)
    (hlost : session.now < lost) (hmem : (lost, .outage) ∈ (session.advanceTo lost).marks)
    (hwaits : session.WaitsUntil lost)
    (hstop : ∀ stop ∈ session.network.stopAt, lost + session.settings.readyPoll ≤ stop) :
    ∃ count, session.waitReady = some (.ok (), session.look count)
      ∧ lost ≤ (session.look count).now
      ∧ (session.look count).now < lost + session.settings.readyPoll
      ∧ (session.look count).phase = .pulsing (lost + session.settings.readyPulse) := by
  have hpoll := session.settings.readyPoll_le_readyPulse hpulse
  have hready := not_ready_of_waitsUntil h hopen hwaits hlost
  obtain ⟨first, hfirst, hle, hlimit, hfirstMem⟩ := exists_outage h hopen hlost hmem hready
  -- The first look behind it falls into its pulse.
  obtain ⟨count, hearlier, hbehind, hwithin⟩ :=
    exists_step_behind session.settings.readyPoll_pos hfirst
  have hattained := (h.look count).attained
  have hnow := now_look session count
  have hheld : ∀ outage, (outage, .outage) ∈ (session.look count).marks → first ≤ outage →
      (session.look count).phase = .pulsing (outage + session.settings.readyPulse) := by
    intro outage houtage hfirstLe
    rw [← settings_look session count] at hpulse
    refine ((hattained.pulse_of_outage hpulse houtage).resolve_right ?_).trans ?_
    · rw [settings_look, hnow]
      omega
    · rw [settings_look]
  have hphase := hheld first
    (mem_marks_look h hopen (Nat.le_of_lt hfirst) (hnow ▸ hbehind) hfirstMem) (Nat.le_refl _)
  have hpulses : (session.look count).pulses = true := by rw [pulses, hphase]
  have hwait : session.waitReady = some (.ok (), session.look count) := by
    have hwaitsFirst : session.WaitsUntil first :=
      fun outcome after hend => Nat.le_trans hle (hwaits outcome after hend)
    refine waitReady_of_ready h hopen hwaitsFirst hearlier
      ((h.look count).announced.pulse hpulses).1 (fun hnone => lt_patience hnone hlimit hearlier) ?_
    intro stop hmemStop
    have := hstop stop hmemStop
    exact ⟨by omega, by omega⟩
  have hlate := hwaits _ _ hwait
  -- So it falls into the pulse of the outage that the caller waited for, and the two are one.
  have hsame := hheld lost (mem_marks_look h hopen (Nat.le_of_lt hlost) hlate hmem) hle
  have hone : lost = first := by
    have := Phase.pulsing.inj (hsame.symm.trans hphase)
    omega
  exact ⟨count, hwait, hlate, by rw [hnow, hone]; exact hwithin, hsame⟩

end

theorem Leads.settings {session after : Session} (h : session.Leads after) :
    after.settings = session.settings := by
  refine h.induction (P := fun other => other.settings = session.settings) ?_ rfl
  intro before other hmove hbefore
  rcases hmove.beat_or_idle with ⟨time, -, -, hsetup⟩ | hidle
  · exact (congrArg Setup.settings hsetup).trans hbefore
  · exact hidle.settings.trans hbefore

/-- A wait that does not end in a pulse ends with an answer of the server. -/
theorem answered_of_waitReady {session after : Session} (h : Reachable session)
    (hpulse : session.settings.readyPulse = 0) (hwait : session.waitReady = some (.ok (), after)) :
    after.pulses = false ∧ after.answered := by
  have hafter : Reachable after := h.lookForReady hwait
  have hquiet : after.pulses = false := by
    refine Bool.eq_false_iff.2 fun hpulses => ?_
    have hpos := hafter.attained.readyPulse_pos hpulses
    rw [(leads_lookForReady hwait).settings] at hpos
    omega
  exact ⟨hquiet, (hafter.announced.steady hquiet).1 (ready_of_lookForReady hwait)⟩

/-- The answer comes, and before the given time. -/
def ComesBefore {α : Type} (outcome : Option (α × Session)) (time : Nat) : Prop :=
  ∃ answer after, outcome = some (answer, after) ∧ after.now < time

theorem ComesBefore.map {α β : Type} {outcome : Option (α × Session)} {time : Nat}
    (h : ComesBefore outcome time) (f : α → β) :
    ComesBefore (outcome.map fun found => (f found.1, found.2)) time := by
  obtain ⟨answer, after, rfl, htime⟩ := h
  exact ⟨f answer, after, rfl, htime⟩

theorem ComesBefore.askSlot {α : Type} {session : Session} {time : Nat}
    (h : ComesBefore session.waitReady time) (hnow : session.now < time) (index : UInt32)
    (ask : Slot → Except Error α) : ComesBefore (session.askSlot index ask) time := by
  obtain ⟨outcome, after, hwait, htime⟩ := h
  unfold Session.askSlot
  rw [hwait]
  split
  · exact ⟨_, session, rfl, hnow⟩
  · cases outcome with
    | error error => exact ⟨_, after, rfl, htime⟩
    | ok found =>
      dsimp only
      split
      · exact ⟨_, after, rfl, htime⟩
      · exact ⟨_, after, rfl, htime⟩

/-- If nothing comes in, a wait ends within the longest silence and one sleep. -/
theorem comesBefore_of_silence {session : Session} (h : Reachable session)
    (hopen : session.closing = false) (hpulse : 0 < session.settings.readyPulse)
    (htolerated : session.settings.toleratedTimeouts.toNat < failureCap)
    (htimed : session.timed = true)
    (hstop : ∀ stop ∈ session.network.stopAt,
      session.now + session.settings.longestSilence + session.settings.readyPoll ≤ stop)
    (hsilent : ∀ time, session.now < time → session.WaitsUntil time →
      (time, .datagram) ∉ (session.advanceTo time).marks) :
    ComesBefore session.waitReady
      (session.now + session.settings.longestSilence + session.settings.readyPoll) := by
  refine Classical.byContradiction fun hlong => ?_
  have hwaits : ∀ time ≤ session.now + session.settings.longestSilence + session.settings.readyPoll,
      session.WaitsUntil time := by
    intro time htime outcome after hwait
    refine Nat.le_of_not_lt fun hearly => hlong ⟨outcome, after, hwait, ?_⟩
    exact Nat.lt_of_lt_of_le hearly htime
  have hlength : session.settings.receiveTimeout ≤ session.settings.longestSilence :=
    Nat.le_trans (Nat.le_add_left _ _) (reserve_add_le session)
  have hpos := session.settings.receiveTimeout_pos
  have hlimit : session.now ≤ session.now + session.settings.longestSilence := Nat.le_add_right _ _
  have hready := not_ready_of_waitsUntil h hopen (hwaits (session.now
    + session.settings.longestSilence) (Nat.le_add_right _ _)) (by omega)
  have hat : ∀ time mark, session.now < time →
      (time, mark) ∈ (session.advanceTo (session.now + session.settings.longestSilence)).marks →
      time ≤ session.now + session.settings.longestSilence
        ∧ (time, mark) ∈ (session.advanceTo time).marks := by
    intro time mark htime hmem
    have hle := (h.advanceTo hlimit).attained.marked _ hmem
    rw [now_advanceTo hlimit] at hle
    exact ⟨hle, mem_marks_at h (Nat.le_of_lt htime) hopen hle hmem rfl⟩
  rcases h.attained.lost_or_heard (h.settled hopen) hopen htimed (h.pulses_of_not_ready hready)
    htolerated with ⟨lost, hlost, hle, hmem⟩ | ⟨time, htime, hmem⟩
  · obtain ⟨count, hwait, -, hnow, -⟩ := waitReady_of_outage h hopen hpulse hlost
      (hat lost _ hlost hmem).2 (hwaits lost (by omega)) fun stop hmemStop =>
        Nat.le_trans (Nat.add_le_add_right hle _) (hstop stop hmemStop)
    exact hlong ⟨_, _, hwait, by omega⟩
  · obtain ⟨hle, hmem⟩ := hat time _ htime hmem
    exact hsilent time htime (hwaits time (by omega)) hmem

/-- If an outage is declared while a caller waits, the wait succeeds within one sleep and while the
    pulse is held, and the question for which the caller waited finds no controller; but a pulse of no
    length ends no wait. So if no datagram comes in during a wait, the answer comes before the longest
    silence and one sleep have gone by, whether the settings limit the wait or not. -/
theorem wait_ends_in_pulse {session : Session} (h : Reachable session)
    (hopen : session.closing = false) :
    let tolerated := session.settings.toleratedTimeouts.toNat
    let poll := session.settings.readyPoll
    let pulse := session.settings.readyPulse
    (0 < pulse → ∀ lost, session.now < lost → (lost, .outage) ∈ (session.advanceTo lost).marks →
        session.WaitsUntil lost → (∀ stop ∈ session.network.stopAt, lost + poll ≤ stop) →
        ∃ after, session.waitReady = some (.ok (), after) ∧ lost ≤ after.now
          ∧ after.now < lost + poll ∧ after.now < lost + pulse ∧ after.phase = .pulsing (lost + pulse)
          ∧ ∀ index : UInt32, index.toNat < slotCount → session.FindsVacant index after)
      ∧ (pulse = 0 → ∀ after, session.waitReady = some (.ok (), after) →
        after.pulses = false ∧ after.answered ∧ (session.bank.ready = false → ¬session.answered))
      ∧ (0 < pulse → tolerated < failureCap → session.timed = true →
        let limit := session.now + 2 * (tolerated + 1) * session.settings.receiveTimeout + poll
        (∀ stop ∈ session.network.stopAt, limit ≤ stop) →
        (∀ time, session.now < time → session.WaitsUntil time →
          (time, .datagram) ∉ (session.advanceTo time).marks) →
        ∀ index flags, ComesBefore (session.state index) limit
          ∧ ComesBefore (session.extendedState index) limit
          ∧ ComesBefore (session.capabilities index flags) limit
          ∧ ComesBefore (session.extendedCapabilities index flags) limit) := by
  intro tolerated poll pulse
  refine ⟨?_, ?_, ?_⟩
  · intro hpulse lost hlost hmem hwaits hstop
    obtain ⟨count, hwait, hlate, hwithin, hphase⟩ :=
      waitReady_of_outage h hopen hpulse hlost hmem hwaits hstop
    refine ⟨_, hwait, hlate, hwithin, ?_, hphase, ?_⟩
    · exact Nat.lt_of_lt_of_le hwithin
        (Nat.add_le_add_left (session.settings.readyPoll_le_readyPulse hpulse) _)
    · intro index hindex
      have hslot : index.toNat = (⟨index.toNat, hindex⟩ : SlotIndex).val := rfl
      refine findsVacant_of_waitReady hslot hwait ?_
      -- The last thing heard is the outage, so no controller can be connected.
      have hpulses : (session.look count).pulses = true := by rw [pulses, hphase]
      obtain ⟨-, rest, hheard⟩ := (h.look count).announced.pulse hpulses
      refine Bool.eq_false_iff.2 fun hconnected => ?_
      obtain ⟨datagram, others, hreply, -⟩ := (h.look count).heard_of_connected hconnected
      cases hheard.symm.trans hreply
  · intro hpulse after hwait
    obtain ⟨hquiet, hanswered⟩ := answered_of_waitReady h hpulse hwait
    refine ⟨hquiet, hanswered, fun hready => ?_⟩
    rw [← h.announced.steady (h.pulses_of_not_ready hready), hready]
    exact Bool.false_ne_true
  · intro hpulse htolerated htimed limit hstop hsilent index flags
    have hwait : ComesBefore session.waitReady limit :=
      comesBefore_of_silence h hopen hpulse htolerated htimed hstop hsilent
    have hnow : session.now < limit := by
      have := session.settings.readyPoll_pos
      exact Nat.lt_of_lt_of_le (Nat.lt_add_of_pos_right this)
        (Nat.add_le_add_right (Nat.le_add_right _ _) _)
    have hask : ∀ {α : Type} (ask : Slot → Except Error α), ComesBefore (session.askSlot index ask) limit :=
      fun ask => hwait.askSlot hnow index ask
    have hstate : ComesBefore (session.extendedState index) limit := hask _
    have hcapabilities : ComesBefore (session.extendedCapabilities index flags) limit := hask _
    exact ⟨hstate.map _, hstate, hcapabilities.map _, hcapabilities⟩

/-- A session with a server that never answers. -/
def unansweredSession : Session :=
  openWith { handshakeWaitMs := 0, receiveTimeoutMs := 1, toleratedTimeouts := 1, readyPulseMs := 3 }
    (.v4 IPv4.localhost 0) {}

theorem unanswered_wait_ends :
    (∃ after, unansweredSession.waitReady = some (.ok (), after) ∧ after.phase = .pulsing 5
        ∧ unansweredSession.FindsVacant 0 after)
      ∧ ComesBefore (unansweredSession.state 0) 5 := by
  have hend : unansweredSession.waitReady.any (fun outcome => outcome.2.now == 2) = true := by
    decide +kernel
  obtain ⟨⟨outcome, last⟩, hwait, hlast⟩ := (Option.any_eq_true _ _).1 hend
  have hlast : last.now = 2 := beq_iff_eq.1 hlast
  have hwaits : unansweredSession.WaitsUntil 2 := by
    intro other after hother
    obtain ⟨-, rfl⟩ := Prod.mk.inj (Option.some.inj (hwait.symm.trans hother))
    exact Nat.le_of_eq hlast.symm
  have hreachable : Reachable unansweredSession := .opened rfl rfl
  have hnow : unansweredSession.now = 0 := by decide +kernel
  have hpoll : unansweredSession.settings.readyPoll = 1 := by decide +kernel
  have hsettings : 2 * (unansweredSession.settings.toleratedTimeouts.toNat + 1)
      * unansweredSession.settings.receiveTimeout = 4 := by decide +kernel
  have hstop : unansweredSession.network.stopAt = none := by decide +kernel
  obtain ⟨hreleased, -, hbounded⟩ := wait_ends_in_pulse hreachable (by decide +kernel)
  constructor
  · obtain ⟨after, hafter, -, -, -, hphase, hvacant⟩ := hreleased (by decide +kernel) 2
      (by decide +kernel) (by decide +kernel) hwaits (by simp [hstop])
    refine ⟨after, hafter, ?_, hvacant 0 (by decide)⟩
    have hpulse : unansweredSession.settings.readyPulse = 3 := by decide +kernel
    rw [hphase, hpulse]
  · have hquiet : ∀ time, unansweredSession.now < time → unansweredSession.WaitsUntil time →
        (time, .datagram) ∉ (unansweredSession.advanceTo time).marks := by
      intro time htime hlong
      have hle := hlong _ _ hwait
      rw [hlast] at hle
      rw [hnow] at htime
      obtain rfl | rfl : time = 1 ∨ time = 2 := by omega
      · decide +kernel
      · decide +kernel
    have hstate := (hbounded (by decide +kernel) (by decide +kernel) (by decide +kernel)
      (by simp [hstop]) hquiet 0 0).1
    rw [hnow, hpoll, hsettings] at hstate
    exact hstate

end PadLink.Session
