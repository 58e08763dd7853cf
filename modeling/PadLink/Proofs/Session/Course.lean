import Mathlib.Data.List.Chain
import PadLink.Proofs.Session.Attained

set_option autoImplicit false

/-! # The course of the rounds

Each round of the exchange begins with one poll. What comes next, and when, is fixed: the poll is
followed by the end of its receive, and that at once by the next poll, unless the failure has to be
waited out or an outage comes with its pulse (`Precedes`). So the marks of the exchange are a chain in
which every receive has its own poll, and the phase says which link of the chain is awaited
(`Attained.onCourse`). -/

namespace PadLink.Session

/-- The time from the mark of a failure until it has been waited out. -/
def pace (settings : Settings) (paced : Bool) : Nat := if paced then settings.receiveTimeout else 0

/-- Whether the one mark can come directly before the other, and at these times. -/
def Precedes (settings : Settings) : Nat × Mark → Nat × Mark → Prop
  | (start, .poll _ _), (time, .datagram) => start ≤ time
  | (start, .poll _ _), (time, .failure _) => start ≤ time
  | (start, .datagram), (time, .poll _ _) => time = start
  | (start, .failure paced), (time, .poll _ _) => time = start + pace settings paced
  | (start, .failure paced), (time, .outage) => time = start + pace settings paced
  | (start, .outage), (time, .poll _ _) => time = start + settings.readyPulse
  | _, _ => False

/-- The link that the phase awaits: the end of the receive behind a poll, the end of the wait behind a
    failure, or the end of the pulse behind an outage. -/
def Awaits (session : Session) : Prop :=
  match session.phase with
  | .receiving _ => ∃ start receiver datagram,
    session.marks.head? = some (start, .poll receiver datagram)
  | .pacing time => ∃ start, session.marks.head? = some (start, .failure true)
    ∧ time = start + pace session.settings true
  | .pulsing time => ∃ start, session.marks.head? = some (start, .outage)
    ∧ time = start + session.settings.readyPulse
  | .absent _ | .stopped => True

/-- The marks are a chain, and the phase awaits its next link. -/
structure OnCourse (session : Session) : Prop where
  chain : session.marks.IsChain fun later earlier => Precedes session.settings earlier later
  awaits : session.Awaits

theorem isChain_cons_of_head {α : Type} {R : α → α → Prop} {a b : α} {l : List α}
    (h : l.IsChain R) (hhead : l.head? = some b) (hr : R a b) : (a :: l).IsChain R := by
  obtain ⟨rest, rfl⟩ := List.head?_eq_some_iff.1 hhead
  exact .cons_cons hr h

/-- A round begins behind a mark that a poll may follow. -/
theorem OnCourse.opening {session after : Session} {marks : List (Nat × Mark)} {latest : Nat × Mark}
    (hmarks : after.marks = session.openingMarks ++ latest :: marks)
    (hphase : after.phase = session.openingPhase) (hsettings : after.settings = session.settings)
    (hchain : (latest :: marks).IsChain fun later earlier => Precedes session.settings earlier later)
    (hpoll : ∀ receiver datagram,
      Precedes session.settings latest (session.now, .poll receiver datagram)) :
    after.OnCourse := by
  unfold openingMarks at hmarks
  unfold openingPhase at hphase
  split at hmarks
  · next hclosing =>
    rw [if_pos hclosing] at hphase
    refine ⟨?_, by rw [Awaits, hphase]; trivial⟩
    rw [hmarks, hsettings]
    exact hchain
  · next hgoes =>
    rw [if_neg hgoes] at hphase
    constructor
    · rw [hmarks, hsettings]
      exact .cons_cons (hpoll _ _) hchain
    · rw [Awaits, hphase, hmarks]
      exact ⟨_, _, _, rfl⟩

/-- When a failure is counted it is the latest mark, and its wait is over just then. -/
theorem Fails.latest {session : Session} {failed : List (Nat × Mark)} {inbox : List Arrival}
    (h : session.Fails failed inbox) (hcourse : session.OnCourse)
    (hprompt : ∀ u ∈ session.phase.timer, session.now ≤ u)
    (hmarked : ∀ entry ∈ session.marks, entry.1 ≤ session.now) :
    ∃ start paced rest, failed ++ session.marks = (start, .failure paced) :: rest
      ∧ session.now = start + pace session.settings paced
      ∧ ((start, Mark.failure paced) :: rest).IsChain fun later earlier =>
        Precedes session.settings earlier later := by
  obtain ⟨hchain, hawaits⟩ := hcourse
  have hfailed : ∀ deadline, session.phase = .receiving deadline →
      ((session.now, Mark.failure false) :: session.marks).IsChain fun later earlier =>
        Precedes session.settings earlier later := by
    intro deadline hphase
    rw [Awaits, hphase] at hawaits
    obtain ⟨start, receiver, datagram, hhead⟩ := hawaits
    exact isChain_cons_of_head hchain hhead (hmarked _ (List.mem_of_mem_head? hhead))
  cases h with
  | silent hphase => exact ⟨_, _, _, rfl, rfl, hfailed _ hphase⟩
  | expired hphase => exact ⟨_, _, _, rfl, rfl, hfailed _ hphase⟩
  | @rested time hphase hdue =>
    have hnow : session.now = time := by
      refine Nat.le_antisymm (hprompt time ?_) hdue
      rw [hphase]
      rfl
    rw [Awaits, hphase] at hawaits
    obtain ⟨start, hhead, htime⟩ := hawaits
    obtain ⟨rest, hrest⟩ := List.head?_eq_some_iff.1 hhead
    rw [hrest] at hchain
    exact ⟨start, true, rest, hrest, hnow.trans htime, hchain⟩

/-- Every beat adds the next link. -/
theorem Beat.onCourse {session after : Session} (h : Beat session after)
    (hsettings : after.settings = session.settings) (hcourse : session.OnCourse)
    (hprompt : ∀ u ∈ session.phase.timer, session.now ≤ u)
    (hmarked : ∀ entry ∈ session.marks, entry.1 ≤ session.now) : after.OnCourse := by
  obtain ⟨hchain, hawaits⟩ := id hcourse
  cases h with
  | heard hphase _ _ _ hmarks hafter =>
    rw [Awaits, hphase] at hawaits
    obtain ⟨start, receiver, datagram, hhead⟩ := hawaits
    refine .opening hmarks hafter hsettings ?_ fun _ _ => rfl
    exact isChain_cons_of_head hchain hhead (hmarked _ (List.mem_of_mem_head? hhead))
  | paced hphase _ _ _ _ hmarks hafter =>
    rw [Awaits, hphase] at hawaits
    obtain ⟨start, receiver, datagram, hhead⟩ := hawaits
    constructor
    · rw [hmarks, hsettings]
      exact isChain_cons_of_head hchain hhead (hmarked _ (List.mem_of_mem_head? hhead))
    · rw [Awaits, hafter, hmarks, hsettings]
      exact ⟨_, rfl, rfl⟩
  | tolerated hfails _ hmarks hafter =>
    obtain ⟨start, paced, rest, hlatest, hnow, hfailed⟩ := hfails.latest hcourse hprompt hmarked
    rw [hlatest] at hmarks
    exact .opening hmarks hafter hsettings hfailed fun _ _ => hnow
  | outage hfails _ hmarks hafter =>
    obtain ⟨start, paced, rest, hlatest, hnow, hfailed⟩ := hfails.latest hcourse hprompt hmarked
    rw [hlatest] at hmarks
    have hlost : ((session.now, Mark.outage) :: (start, .failure paced) :: rest).IsChain
        fun later earlier => Precedes session.settings earlier later := .cons_cons hnow hfailed
    by_cases hpulse : session.settings.readyPulse = 0
    · rw [if_pos hpulse] at hmarks hafter
      refine .opening hmarks hafter hsettings hlost fun _ _ => ?_
      rw [Precedes, hpulse, Nat.add_zero]
    · rw [if_neg hpulse] at hmarks hafter
      constructor
      · rw [hmarks, hsettings]
        exact hlost
      · rw [Awaits, hafter, hmarks, hsettings]
        exact ⟨_, rfl, rfl⟩
  | @pulseEnd time hphase hdue hmarks hafter =>
    rw [Awaits, hphase] at hawaits
    obtain ⟨start, hhead, htime⟩ := hawaits
    obtain ⟨rest, hrest⟩ := List.head?_eq_some_iff.1 hhead
    have hnow : session.now = time := by
      refine Nat.le_antisymm (hprompt time ?_) hdue
      rw [hphase]
      rfl
    rw [hrest] at hchain hmarks
    exact .opening hmarks hafter hsettings hchain fun _ _ => hnow.trans htime

/-- At every instant the exchange is on its course. -/
theorem Attained.onCourse {session : Session} (h : Attained session) : session.OnCourse := by
  refine Attained.induction ?_ ?_ ?_ h
  · intro settings peer network
    constructor
    · rw [marks_launch]
      exact .singleton _
    · rw [Awaits, phase_launch, marks_launch]
      exact ⟨_, _, _, rfl⟩
  · intro before after time hattained hwake hbeat hsetup hbefore
    refine hbeat.onCourse (congrArg Setup.settings hsetup) ⟨hbefore.chain, hbefore.awaits⟩
      (hattained.now_atTime_le hwake) fun entry hentry => ?_
    exact Nat.le_trans (hattained.marked entry hentry) (Nat.le_max_left _ _)
  · rintro before after hidle ⟨hchain, hawaits⟩
    constructor
    · rw [hidle.marks, hidle.settings]
      exact hchain
    · rw [Awaits, hidle.phase, hidle.marks, hidle.settings]
      exact hawaits

end PadLink.Session
