import Mathlib.Tactic.Ring
import PadLink.Proofs.Session.Outage

set_option autoImplicit false

/-! # How long silence lasts before an outage

A round takes the time of a receive at most, and that of the wait behind a fault besides. So from any
instant it is known how much time can go by at most until so many rounds have failed that an outage is
due: the time until the timer runs out, and the `reserve` behind that. A beat that brings no datagram
lets this sum shrink or stay (`Beat.spent`), and a datagram sets it back to its greatest value. As long
as a controller is connected there was a datagram behind the last outage, and so that datagram is not
older than this greatest value (`outage_iff_due`, whose other part is the law by which outages follow
on failures). -/

namespace PadLink

/-- The longest silence from a datagram to an outage. -/
def Settings.longestSilence (settings : Settings) : Nat :=
  2 * (settings.toleratedTimeouts.toNat + 1) * settings.receiveTimeout

/-- Whether the mark is neither a datagram nor an outage. -/
def Mark.isRoutine : Mark → Bool
  | poll _ _ => true
  | failure _ => true
  | datagram => false
  | outage => false

namespace Session

/-! ## The reserve -/

/-- How long an outage can be put off behind the timer if nothing but failures comes. -/
def reserve (session : Session) : Nat :=
  match session.phase with
  | .receiving _ =>
    (2 * (session.settings.toleratedTimeouts.toNat - session.failures) + 1)
      * session.settings.receiveTimeout
  | .pacing _ =>
    2 * (session.settings.toleratedTimeouts.toNat - session.failures)
      * session.settings.receiveTimeout
  | .absent _ => 0
  | .pulsing _ => 0
  | .stopped => 0

theorem reserve_le_of_opening {session after : Session} (hphase : after.phase = session.openingPhase) :
    after.reserve ≤ (2 * (after.settings.toleratedTimeouts.toNat - after.failures) + 1)
      * after.settings.receiveTimeout := by
  unfold reserve
  rw [hphase]
  unfold openingPhase
  by_cases hclosing : session.closing = true
  · rw [if_pos hclosing]
    exact Nat.zero_le _
  · rw [if_neg hclosing]
    exact Nat.le_refl _

/-- What is left when a failure comes to be counted. -/
theorem Fails.le_reserve {session : Session} {failed : List (Nat × Mark)} {inbox : List Arrival}
    (h : session.Fails failed inbox) :
    2 * (session.settings.toleratedTimeouts.toNat - session.failures)
      * session.settings.receiveTimeout ≤ session.reserve := by
  unfold reserve
  cases h with
  | silent hphase =>
    rw [hphase]
    exact Nat.mul_le_mul_right _ (Nat.le_succ _)
  | expired hphase =>
    rw [hphase]
    exact Nat.mul_le_mul_right _ (Nat.le_succ _)
  | rested hphase => rw [hphase]

theorem isRoutine_of_mem_opening {session : Session} {entry : Nat × Mark}
    (h : entry ∈ session.openingMarks) : entry.2.isRoutine = true := by
  unfold openingMarks at h
  split at h
  · cases h
  · rw [List.mem_singleton.1 h]
    rfl

theorem Fails.isRoutine {session : Session} {failed : List (Nat × Mark)} {inbox : List Arrival}
    (h : session.Fails failed inbox) : ∀ entry ∈ failed, entry.2.isRoutine = true := by
  intro entry hentry
  cases h with
  | silent => rw [List.mem_singleton.1 hentry]; rfl
  | expired => rw [List.mem_singleton.1 hentry]; rfl
  | rested => cases hentry

theorem Fails.inbox {session : Session} {failed : List (Nat × Mark)} {inbox : List Arrival}
    (h : session.Fails failed inbox) :
    inbox = session.network.inbox ∨ inbox = session.network.inbox.tail := by
  cases h with
  | silent => exact Or.inr rfl
  | expired => exact Or.inl rfl
  | rested => exact Or.inl rfl

theorem Fails.pulses {session : Session} {failed : List (Nat × Mark)} {inbox : List Arrival}
    (h : session.Fails failed inbox) : session.pulses = false := by
  cases h with
  | silent hphase => rw [Session.pulses, hphase]
  | expired hphase => rw [Session.pulses, hphase]
  | rested hphase => rw [Session.pulses, hphase]

/-- The only beat of a pulse is its end. -/
theorem Beat.of_pulses {session after : Session} (h : Beat session after)
    (hpulses : session.pulses = true) :
    (∃ u, session.phase = .pulsing u ∧ u ≤ session.now)
      ∧ after.marks = session.openingMarks ++ session.marks := by
  cases h with
  | pulseEnd hphase hdue hmarks _ _ _ => exact ⟨⟨_, hphase, hdue⟩, hmarks⟩
  | heard hphase => rw [pulses, hphase] at hpulses; cases hpulses
  | paced hphase => rw [pulses, hphase] at hpulses; cases hpulses
  | tolerated hfails => rw [hfails.pulses] at hpulses; cases hpulses
  | outage hfails => rw [hfails.pulses] at hpulses; cases hpulses

/-- What a beat outside a pulse does to the time until an outage: a datagram brings the longest
    silence, an outage ends it, and anything else leaves no more than there was. -/
inductive Spent (session after : Session) : Prop
  | heard {fresh : List (Nat × Mark)} (hfresh : ∀ entry ∈ fresh, entry.2.isRoutine = true)
      (hmarks : after.marks = fresh ++ (session.now, .datagram) :: session.marks)
      (hpulses : after.pulses = false) (hsome : session.network.inbox ≠ [])
      (hinbox : after.network.inbox = session.network.inbox.tail)
      (hreserve : after.reserve ≤ session.settings.longestSilence)
      (htimer : ∀ u ∈ after.phase.timer,
        u + after.reserve ≤ session.now + session.settings.longestSilence)
  | lost {fresh failed : List (Nat × Mark)} (hfresh : ∀ entry ∈ fresh, entry.2.isRoutine = true)
      (hfailed : ∀ entry ∈ failed, entry.2.isRoutine = true)
      (hmarks : after.marks = fresh ++ (session.now, .outage) :: (failed ++ session.marks))
      (hphase : 0 < session.settings.readyPulse →
        after.phase = .pulsing (session.now + session.settings.readyPulse))
  | went {fresh : List (Nat × Mark)} (hfresh : ∀ entry ∈ fresh, entry.2.isRoutine = true)
      (hmarks : after.marks = fresh ++ session.marks) (hpulses : after.pulses = false)
      (hinbox : after.network.inbox = session.network.inbox
        ∨ after.network.inbox = session.network.inbox.tail)
      (hreserve : after.reserve ≤ session.reserve)
      (htimer : ∀ u ∈ after.phase.timer, u + after.reserve ≤ session.now + session.reserve)

theorem pulses_of_opening {session after : Session} (hphase : after.phase = session.openingPhase) :
    after.pulses = false := by
  rw [pulses, hphase]
  unfold openingPhase
  by_cases hclosing : session.closing = true
  · rw [if_pos hclosing]
  · rw [if_neg hclosing]
    rfl

theorem Beat.spent {session after : Session} (h : Beat session after)
    (hsettings : after.settings = session.settings) (hpulses : session.pulses = false)
    (htolerated : session.settings.toleratedTimeouts.toNat < failureCap)
    (hfailures : session.failures ≤ session.settings.toleratedTimeouts.toNat) :
    Spent session after := by
  cases h with
  | heard _ hhead _ _ hmarks hafter hcount hinbox =>
    have hreserve := reserve_le_of_opening hafter
    rw [hsettings, hcount, Nat.sub_zero] at hreserve
    have hlongest : session.settings.longestSilence
        = session.settings.receiveTimeout + (2 * session.settings.toleratedTimeouts.toNat + 1)
          * session.settings.receiveTimeout := by
      rw [Settings.longestSilence]
      ring
    refine .heard (fun _ => isRoutine_of_mem_opening) hmarks (pulses_of_opening hafter) ?_ hinbox
      (by omega) ?_
    · intro hnil
      rw [hnil] at hhead
      cases hhead
    · intro u hu
      rw [hafter] at hu
      have := timer_openingPhase hu
      omega
  | paced hphase _ _ _ _ hmarks hafter hcount hinbox =>
    have hbefore : session.reserve = session.settings.receiveTimeout + after.reserve := by
      simp only [reserve, hphase, hafter, hsettings, hcount]
      ring
    have hfresh : after.marks = [(session.now, .failure true)] ++ session.marks := hmarks
    refine .went ?_ hfresh (by rw [pulses, hafter]) (Or.inr hinbox) (by omega) ?_
    · intro entry hentry
      rw [List.mem_singleton.1 hentry]
      rfl
    · intro u hu
      rw [hafter, Phase.timer, Option.mem_some_iff] at hu
      omega
  | tolerated hfails hle hmarks hafter hcount hinbox =>
    have hreserve := reserve_le_of_opening hafter
    have hbefore := hfails.le_reserve
    -- One round less is tolerated from now on.
    obtain ⟨left, hleft⟩ : ∃ left, session.settings.toleratedTimeouts.toNat - session.failures
        = left + 1 := ⟨session.settings.toleratedTimeouts.toNat - session.failures - 1, by omega⟩
    have hless : session.settings.toleratedTimeouts.toNat - after.failures = left := by omega
    have hround : 2 * (left + 1) * session.settings.receiveTimeout
        = session.settings.receiveTimeout + (2 * left + 1) * session.settings.receiveTimeout := by
      ring
    rw [hsettings, hless] at hreserve
    rw [hleft, hround] at hbefore
    rw [← List.append_assoc] at hmarks
    refine .went ?_ hmarks (pulses_of_opening hafter) (hinbox ▸ hfails.inbox) (by omega) ?_
    · intro entry hentry
      rcases List.mem_append.1 hentry with hentry | hentry
      · exact isRoutine_of_mem_opening hentry
      · exact hfails.isRoutine entry hentry
    · intro u hu
      rw [hafter] at hu
      have := timer_openingPhase hu
      omega
  | outage hfails _ hmarks hafter _ _ =>
    refine .lost ?_ hfails.isRoutine hmarks ?_
    · intro entry hentry
      split at hentry
      · exact isRoutine_of_mem_opening hentry
      · cases hentry
    · intro hpulse
      rw [hafter, if_neg (Nat.ne_of_gt hpulse)]
  | pulseEnd hphase => rw [pulses, hphase] at hpulses; cases hpulses

/-! ## The last contact -/

/-- The time of the last datagram, if no outage came behind it. -/
def contact? : List (Nat × Mark) → Option Nat
  | [] => none
  | (time, .datagram) :: _ => some time
  | (_, .outage) :: _ => none
  | (_, .poll _ _) :: earlier => contact? earlier
  | (_, .failure _) :: earlier => contact? earlier

theorem contact?_append {fresh : List (Nat × Mark)}
    (hfresh : ∀ entry ∈ fresh, entry.2.isRoutine = true) (earlier : List (Nat × Mark)) :
    contact? (fresh ++ earlier) = contact? earlier := by
  induction fresh with
  | nil => rfl
  | cons entry rest ih =>
    obtain ⟨time, mark⟩ := entry
    have hrest := ih fun other hother => hfresh other (List.mem_cons_of_mem _ hother)
    cases mark with
    | poll receiver datagram => exact hrest
    | failure paced => exact hrest
    | datagram => cases hfresh _ List.mem_cons_self
    | outage => cases hfresh _ List.mem_cons_self

theorem mem_of_contact? {marks : List (Nat × Mark)} {time : Nat} (h : contact? marks = some time) :
    (time, .datagram) ∈ marks := by
  induction marks with
  | nil => cases h
  | cons entry earlier ih =>
    obtain ⟨other, mark⟩ := entry
    cases mark with
    | poll receiver datagram => exact List.mem_cons_of_mem _ (ih h)
    | failure paced => exact List.mem_cons_of_mem _ (ih h)
    | datagram => rw [← Option.some.inj h]; exact List.mem_cons_self
    | outage => cases h

/-- If the last thing heard was a state reply, there was contact behind the last outage. -/
theorem contact?_of_heard {session : Session} {datagram : Datagram}
    {rest : List (Option Datagram)} (h : session.heard = some datagram :: rest) :
    ∃ time, contact? session.marks = some time := by
  rw [heard, events_eq_map_entries] at h
  rw [marks]
  -- What is neither heard nor an outage may still be contact, and the search ends there.
  generalize session.entries = entries at h ⊢
  induction entries with
  | nil => cases h
  | cons entry earlier ih =>
    obtain ⟨time, event⟩ := entry
    rw [List.map_cons, List.filterMap_cons] at h
    rw [List.filterMap_cons]
    cases event with
    | received payload sender => exact ⟨time, rfl⟩
    | outage peer attempts count => cases (List.cons.inj h).1
    | _ => exact ih h

/-- While there is contact there is no pulse, and an outage is no farther away from the datagram than
    the longest silence. -/
def InContact (session : Session) : Prop :=
  ∀ time, contact? session.marks = some time →
    session.pulses = false
      ∧ ∀ u ∈ session.phase.timer, u + session.reserve ≤ time + session.settings.longestSilence

theorem inContact_launch (settings : Settings) (peer : SocketAddress) (network : Network) :
    (launch settings peer network).InContact := by
  intro time hcontact
  rw [marks_launch] at hcontact
  cases hcontact

theorem Attained.failures_le {session : Session} (h : Attained session)
    (htolerated : session.settings.toleratedTimeouts.toNat < failureCap) :
    session.failures ≤ session.settings.toleratedTimeouts.toNat := by
  obtain ⟨decided, -, hpunctual, hcount⟩ := h.tally
  have hle := hpunctual.failureRow_le htolerated
  omega

theorem Beat.inContact {session after : Session} (h : Beat session after)
    (hsettings : after.settings = session.settings)
    (htolerated : session.settings.toleratedTimeouts.toNat < failureCap)
    (hfailures : session.failures ≤ session.settings.toleratedTimeouts.toNat)
    (htimer : ∃ u ∈ session.phase.timer, session.now ≤ u) (hsession : session.InContact) :
    after.InContact := by
  intro time hcontact
  rw [hsettings]
  cases hpulses : session.pulses with
  | true =>
    -- The pulse goes with an outage, and its end brings no contact.
    rw [(h.of_pulses hpulses).2, contact?_append fun _ => isRoutine_of_mem_opening] at hcontact
    have hquiet := (hsession time hcontact).1
    rw [hpulses] at hquiet
    cases hquiet
  | false =>
    cases h.spent hsettings hpulses htolerated hfailures with
    | heard hfresh hmarks hquiet _ _ _ htimer =>
      rw [hmarks, contact?_append hfresh] at hcontact
      obtain rfl := Option.some.inj hcontact
      exact ⟨hquiet, htimer⟩
    | lost hfresh _ hmarks _ =>
      rw [hmarks, contact?_append hfresh] at hcontact
      cases hcontact
    | went hfresh hmarks hquiet _ _ hspent =>
      rw [hmarks, contact?_append hfresh] at hcontact
      obtain ⟨u, hu, hnow⟩ := htimer
      have hlimit := (hsession time hcontact).2 u hu
      refine ⟨hquiet, fun v hv => ?_⟩
      have := hspent v hv
      omega

/-- At every instant of a session with timeouts, an outage is due within the longest silence after the
    last contact. -/
theorem Attained.inContact {session : Session} (h : Attained session)
    (hopen : session.closing = false) (htimed : session.timed = true)
    (htolerated : session.settings.toleratedTimeouts.toNat < failureCap) : session.InContact := by
  refine Attained.induction (P := fun session => session.closing = false → session.timed = true →
    session.settings.toleratedTimeouts.toNat < failureCap → session.InContact) ?_ ?_ ?_ h hopen
    htimed htolerated
  · intro settings peer network _ _ _
    exact inContact_launch settings peer network
  · intro before after time hattained hwake hbeat hsetup hbefore hopen htimed htolerated
    have hsettings : after.settings = before.settings := congrArg Setup.settings hsetup
    have hopen : before.closing = false := (congrArg Setup.closing hsetup).symm.trans hopen
    have htimed : before.timed = true := (congrArg Setup.timed hsetup).symm.trans htimed
    rw [hsettings] at htolerated
    obtain ⟨u, hu⟩ := hattained.timer hopen htimed
    exact hbeat.inContact hsettings htolerated (hattained.failures_le htolerated)
      ⟨u, hu, hattained.now_atTime_le hwake u hu⟩ (hbefore hopen htimed htolerated)
  · intro before after hidle hbefore hopen htimed htolerated
    have hopen : before.closing = false := by
      cases hclosing : before.closing with
      | false => rfl
      | true => rw [hidle.closing hclosing] at hopen; cases hopen
    rw [hidle.settings] at htolerated
    have hcontact := hbefore hopen (hidle.timed.symm.trans htimed) htolerated
    simp only [InContact, pulses, reserve, hidle.marks, hidle.phase, hidle.settings,
      hidle.failures] at hcontact ⊢
    exact hcontact

/-! ## Outages and their time -/

/-- Directly behind a receive comes an outage exactly when the receive failed and was one failure more
    than is tolerated, counted from the last datagram or outage; a failure that is being waited out is
    still undecided. An outage comes in no other place, and never under the greatest tolerance. So
    while a controller is connected, a datagram came within the longest silence. -/
theorem outage_iff_due {session : Session} (h : Reachable session) :
    let tolerated := session.settings.toleratedTimeouts.toNat
    (∀ later time mark earlier, session.marks = later ++ (time, mark) :: earlier →
        mark.isReceive = true → (later = [] → ∀ u, session.phase ≠ .pacing u) →
        (NextIsOutage later ↔ mark.isFailure = true
          ∧ failureRow ((time, mark) :: earlier) = tolerated + 1 ∧ tolerated < failureCap))
      ∧ (∀ later time earlier, session.marks = later ++ (time, .outage) :: earlier →
        ∃ failed paced rest, earlier = (failed, .failure paced) :: rest)
      ∧ (tolerated = failureCap → ∀ time, (time, .outage) ∉ session.marks)
      ∧ (session.closing = false → session.timed = true → tolerated < failureCap →
        (∃ slot, (session.bank.slot slot).connected = true) →
        ∃ time, (time, .datagram) ∈ session.marks ∧ time ≤ session.now
          ∧ session.now < time + 2 * (tolerated + 1) * session.settings.receiveTimeout) := by
  intro tolerated
  obtain ⟨decided, hdecided, hpunctual, -⟩ := h.attained.tally
  refine ⟨?_, ?_, ?_, ?_⟩
  · intro later time mark earlier hmarks hreceive hpacing
    have hrow : mark.isFailure = true →
        failureRow ((time, mark) :: earlier) = failureRow earlier + 1 := by
      intro hfailure
      cases mark with
      | failure paced => rfl
      | _ => cases hfailure
    have hlaw : NextIsOutage later ↔ mark.isFailure = true ∧ Due tolerated earlier := by
      rcases hdecided with ⟨hall, -⟩ | ⟨failed, u, hlast, hphase⟩
      · exact hpunctual.nextIsOutage_iff (hall.symm.trans hmarks) hreceive
      · cases later with
        | nil => exact absurd hphase (hpacing rfl u)
        | cons latest later =>
          obtain ⟨rfl, hrest⟩ := List.cons.inj (hlast.symm.trans hmarks)
          rw [nextIsOutage_cons (by simp)]
          exact hpunctual.nextIsOutage_iff hrest hreceive
    rw [hlaw]
    constructor
    · rintro ⟨hfailure, hcap, hlength⟩
      exact ⟨hfailure, by rw [hrow hfailure, hlength], hcap⟩
    · rintro ⟨hfailure, hlength, hcap⟩
      rw [hrow hfailure] at hlength
      exact ⟨hfailure, hcap, Nat.succ.inj hlength⟩
  · intro later time earlier hmarks
    obtain ⟨failed, paced, rest, hearlier, -⟩ := h.attained.failure_of_outage hmarks
    exact ⟨failed, paced, rest, hearlier⟩
  · intro hgreatest time hmem
    obtain ⟨later, earlier, hmarks⟩ := List.append_of_mem hmem
    obtain ⟨_, _, _, -, hcap, -⟩ := h.attained.failure_of_outage hmarks
    exact absurd hcap (by omega)
  · rintro hopen htimed htolerated ⟨slot, hconnected⟩
    obtain ⟨datagram, rest, hheard, -⟩ := h.heard_of_connected hconnected
    obtain ⟨time, hcontact⟩ := contact?_of_heard hheard
    obtain ⟨u, hu⟩ := h.attained.timer hopen htimed
    obtain ⟨wake, hwake, hle⟩ := exists_nextWake_le hu
    have hahead := h.settled hopen wake hwake
    have hlimit := (h.attained.inContact hopen htimed htolerated time hcontact).2 u hu
    have hmem := mem_of_contact? hcontact
    refine ⟨time, hmem, h.attained.marked _ hmem, ?_⟩
    exact Nat.lt_of_lt_of_le hahead (Nat.le_trans hle (Nat.le_trans (Nat.le_add_right _ _) hlimit))

/-- A session whose server fell silent for longer than is tolerated, and then came back. -/
def resumedSession : Session :=
  openWith { handshakeWaitMs := 8, receiveTimeoutMs := 1, toleratedTimeouts := 1, readyPulseMs := 2 }
    (.v4 IPv4.localhost 0)
    { inbox := [⟨1, .payload [2, 1, 1, 0, 0, 0, 128, 128, 128, 0, 0]⟩, ⟨7, .payload [2, 1]⟩] }

theorem outage_in_resumedSession :
    (∃ later earlier, resumedSession.marks = later ++ (3, .failure false) :: earlier
        ∧ NextIsOutage later)
      ∧ ∃ time, (time, .datagram) ∈ resumedSession.marks ∧ resumedSession.now < time + 4 := by
  have hmarks : ∃ later earlier, resumedSession.marks = later ++ (3, .failure false) :: earlier
      ∧ (later.isEmpty = false ∧ failureRow ((3, .failure false) :: earlier) = 2) := by
    refine ⟨resumedSession.marks.take 8, resumedSession.marks.drop 9, ?_⟩
    decide +kernel
  have hconnected : (resumedSession.bank.slot 0).connected = true := by decide +kernel
  obtain ⟨later, earlier, hsplit, hlater, hrow⟩ := hmarks
  have hreachable : Reachable resumedSession := .opened rfl rfl
  obtain ⟨hlaw, -, -, hcontact⟩ := outage_iff_due hreachable
  refine ⟨⟨later, earlier, hsplit, ?_⟩, ?_⟩
  · refine (hlaw later 3 _ earlier hsplit rfl ?_).2 ⟨rfl, ?_, ?_⟩
    · rintro rfl
      cases hlater
    · rw [hrow]
      decide +kernel
    · decide +kernel
  · obtain ⟨time, hmem, -, hrecent⟩ := hcontact (by decide +kernel) (by decide +kernel)
      (by decide +kernel) ⟨0, hconnected⟩
    have hlimit : 2 * (resumedSession.settings.toleratedTimeouts.toNat + 1)
        * resumedSession.settings.receiveTimeout = 4 := by decide +kernel
    exact ⟨time, hmem, hlimit ▸ hrecent⟩

end Session

end PadLink
