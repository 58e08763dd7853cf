import PadLink.Proofs.Session.Attained

set_option autoImplicit false

/-! # When an outage is due

Failures are counted in a row: from the last datagram, or from the last outage if that is later. One
more than is tolerated is an outage, and no other event leads to one (`Punctual`). The exchange keeps
the count in a number that stops at its greatest value, compares it before it sets it back, and sets it
back in three places; `Attained.tally` shows that the number is the length of the row all the same, up
to that greatest value. A tolerance of just that value is therefore never exceeded.

A paced failure is marked when it comes and counted when it has been waited out, so in between there is
one failure about which nothing has been decided. -/

namespace PadLink

namespace Mark

/-- Whether a receive ended so. -/
def isReceive : Mark → Bool
  | datagram => true
  | failure _ => true
  | poll _ _ => false
  | outage => false

/-- Whether a receive failed so. -/
def isFailure : Mark → Bool
  | failure _ => true
  | _ => false

end Mark

namespace Session

/-! ## The law -/

/-- How many receives in a row have failed at the end of a history. -/
def failureRow : List (Nat × Mark) → Nat
  | [] => 0
  | (_, .poll _ _) :: earlier => failureRow earlier
  | (_, .failure _) :: earlier => failureRow earlier + 1
  | (_, .datagram) :: _ => 0
  | (_, .outage) :: _ => 0

/-- Whether a failure at the end of a history would be one too many. -/
def Due (tolerated : Nat) (earlier : List (Nat × Mark)) : Prop :=
  tolerated < failureCap ∧ failureRow earlier = tolerated

/-- A history in which outages stand behind the failures that are one too many, behind each of them
    and behind nothing else. -/
inductive Punctual (tolerated : Nat) : List (Nat × Mark) → Prop
  | nil : Punctual tolerated []
  | poll {time : Nat} {receiver : SocketAddress} {datagram : Datagram}
      {earlier : List (Nat × Mark)} (h : Punctual tolerated earlier) :
      Punctual tolerated ((time, .poll receiver datagram) :: earlier)
  | datagram {time : Nat} {earlier : List (Nat × Mark)} (h : Punctual tolerated earlier) :
      Punctual tolerated ((time, .datagram) :: earlier)
  | failure {time : Nat} {paced : Bool} {earlier : List (Nat × Mark)}
      (h : Punctual tolerated earlier) (hdue : ¬Due tolerated earlier) :
      Punctual tolerated ((time, .failure paced) :: earlier)
  | outage {time failed : Nat} {paced : Bool} {earlier : List (Nat × Mark)}
      (h : Punctual tolerated earlier) (hdue : Due tolerated earlier) :
      Punctual tolerated ((time, .outage) :: (failed, .failure paced) :: earlier)

/-- Whether the first of the later marks is an outage. -/
def NextIsOutage (later : List (Nat × Mark)) : Prop := ∃ time, later.getLast? = some (time, .outage)

theorem not_nextIsOutage_nil : ¬NextIsOutage [] := by
  rintro ⟨time, h⟩
  cases h

theorem nextIsOutage_singleton {entry : Nat × Mark} :
    NextIsOutage [entry] ↔ entry.2 = .outage := by
  obtain ⟨time, mark⟩ := entry
  constructor
  · rintro ⟨other, h⟩
    exact congrArg Prod.snd (Option.some.inj h)
  · rintro rfl
    exact ⟨time, rfl⟩

/-- What comes still later does not matter. -/
theorem nextIsOutage_cons_cons {latest entry : Nat × Mark} {later : List (Nat × Mark)} :
    NextIsOutage (latest :: entry :: later) ↔ NextIsOutage (entry :: later) := by
  simp only [NextIsOutage, List.getLast?_cons_cons]

/-- A mark that is no outage does not make one of the next mark. -/
theorem nextIsOutage_cons {latest : Nat × Mark} {later : List (Nat × Mark)}
    (h : latest.2 ≠ .outage) : NextIsOutage (latest :: later) ↔ NextIsOutage later := by
  cases later with
  | nil => exact iff_of_false (fun hnext => h (nextIsOutage_singleton.1 hnext)) not_nextIsOutage_nil
  | cons entry later => exact nextIsOutage_cons_cons

section

variable {tolerated : Nat} {marks later earlier : List (Nat × Mark)} {time : Nat} {mark : Mark}

/-- In a punctual history an outage directly follows on a receive exactly when the receive failed and
    that was one too many. -/
theorem Punctual.nextIsOutage_iff (h : Punctual tolerated marks)
    (hmarks : marks = later ++ (time, mark) :: earlier) (hreceive : mark.isReceive = true) :
    NextIsOutage later ↔ mark.isFailure = true ∧ Due tolerated earlier := by
  -- A mark later than the receive leaves both sides as they are, unless it is the next one.
  induction h generalizing later with
  | nil => cases later <;> cases hmarks
  | poll _ ih =>
    cases later with
    | nil => cases hmarks; cases hreceive
    | cons latest later =>
      obtain ⟨rfl, hrest⟩ := List.cons.inj hmarks
      rw [nextIsOutage_cons (by simp)]
      exact ih hrest
  | datagram _ ih =>
    cases later with
    | nil => cases hmarks; exact iff_of_false not_nextIsOutage_nil fun hfailed => by cases hfailed.1
    | cons latest later =>
      obtain ⟨rfl, hrest⟩ := List.cons.inj hmarks
      rw [nextIsOutage_cons (by simp)]
      exact ih hrest
  | failure _ hdue ih =>
    cases later with
    | nil => cases hmarks; exact iff_of_false not_nextIsOutage_nil fun hfailed => hdue hfailed.2
    | cons latest later =>
      obtain ⟨rfl, hrest⟩ := List.cons.inj hmarks
      rw [nextIsOutage_cons (by simp)]
      exact ih hrest
  | outage _ hdue ih =>
    match later with
    | [] => cases hmarks; cases hreceive
    | [latest] =>
      cases hmarks
      exact iff_of_true (nextIsOutage_singleton.2 rfl) ⟨rfl, hdue⟩
    | latest :: failed :: later =>
      obtain ⟨rfl, htail⟩ := List.cons.inj hmarks
      obtain ⟨rfl, hrest⟩ := List.cons.inj htail
      rw [nextIsOutage_cons_cons, nextIsOutage_cons (by simp)]
      exact ih hrest

/-- An outage stands directly behind a failure that was one too many. -/
theorem Punctual.failure_of_outage (h : Punctual tolerated marks)
    (hmarks : marks = later ++ (time, .outage) :: earlier) :
    ∃ failed paced rest, earlier = (failed, .failure paced) :: rest ∧ Due tolerated rest := by
  induction h generalizing later with
  | nil => cases later <;> cases hmarks
  | poll _ ih =>
    cases later with
    | nil => cases hmarks
    | cons latest later => exact ih (List.cons.inj hmarks).2
  | datagram _ ih =>
    cases later with
    | nil => cases hmarks
    | cons latest later => exact ih (List.cons.inj hmarks).2
  | failure _ _ ih =>
    cases later with
    | nil => cases hmarks
    | cons latest later => exact ih (List.cons.inj hmarks).2
  | outage _ hdue ih =>
    match later with
    | [] => cases hmarks; exact ⟨_, _, _, rfl, hdue⟩
    | [latest] => cases hmarks
    | latest :: failed :: later => exact ih (List.cons.inj (List.cons.inj hmarks).2).2

/-- In a punctual history the row never gets longer than is tolerated. -/
theorem Punctual.failureRow_le (h : Punctual tolerated marks) (htolerated : tolerated < failureCap) :
    failureRow marks ≤ tolerated := by
  induction h with
  | nil => exact Nat.zero_le _
  | poll _ ih => exact ih
  | datagram _ _ => exact Nat.zero_le _
  | failure _ hdue ih =>
    have hne : failureRow _ ≠ tolerated := fun heq => hdue ⟨htolerated, heq⟩
    exact Nat.lt_of_le_of_ne ih hne
  | outage _ _ _ => exact Nat.zero_le _

end

/-! ## The count -/

/-- The history that has been decided about: all of it, but for a failure that is being waited out. -/
def Decided (session : Session) (decided : List (Nat × Mark)) : Prop :=
  (session.marks = decided ∧ ∀ u, session.phase ≠ .pacing u)
    ∨ ∃ time u, session.marks = (time, .failure true) :: decided ∧ session.phase = .pacing u

/-- What has been decided was decided punctually, and the count is the length of its row. -/
def Tally (session : Session) : Prop :=
  ∃ decided, session.Decided decided
    ∧ Punctual session.settings.toleratedTimeouts.toNat decided
    ∧ session.failures = min (failureRow decided) failureCap

theorem Decided.marks_eq {session : Session} {decided : List (Nat × Mark)}
    (h : session.Decided decided) (hphase : ∀ u, session.phase ≠ .pacing u) :
    session.marks = decided := by
  rcases h with ⟨hmarks, -⟩ | ⟨_, u, -, hpacing⟩
  · exact hmarks
  · exact absurd hpacing (hphase u)

theorem openingPhase_ne_pacing (session : Session) (u : Nat) :
    session.openingPhase ≠ .pacing u := by
  unfold openingPhase
  split
  · exact Phase.noConfusion
  · exact Phase.noConfusion

theorem Punctual.opening {session : Session} {tolerated : Nat} {marks : List (Nat × Mark)}
    (h : Punctual tolerated marks) : Punctual tolerated (session.openingMarks ++ marks) := by
  unfold openingMarks
  split
  · exact h
  · exact .poll h

theorem failureRow_opening (session : Session) (marks : List (Nat × Mark)) :
    failureRow (session.openingMarks ++ marks) = failureRow marks := by
  unfold openingMarks
  split <;> rfl

/-- When a failure is counted, the marks end with it, and what was before has been decided about. -/
theorem Fails.decided {session : Session} {failed : List (Nat × Mark)} {inbox : List Arrival}
    {decided : List (Nat × Mark)} (h : session.Fails failed inbox)
    (hdecided : session.Decided decided) :
    ∃ time paced, failed ++ session.marks = (time, .failure paced) :: decided := by
  rcases hdecided with ⟨rfl, hphase⟩ | ⟨time, u, hmarks, hpacing⟩
  · cases h with
    | silent => exact ⟨_, _, rfl⟩
    | expired => exact ⟨_, _, rfl⟩
    | rested hpacing => exact absurd hpacing (hphase _)
  · cases h with
    | silent hphase => rw [hpacing] at hphase; cases hphase
    | expired hphase => rw [hpacing] at hphase; cases hphase
    | rested => exact ⟨time, true, hmarks⟩

theorem tally_launch (settings : Settings) (peer : SocketAddress) (network : Network) :
    (launch settings peer network).Tally := by
  refine ⟨_, Or.inl ⟨marks_launch settings peer network, ?_⟩, .poll .nil, ?_⟩
  · intro u
    rw [phase_launch]
    exact Phase.noConfusion
  · exact failures_beginRound _

theorem Beat.tally {session after : Session} (h : Beat session after)
    (hsettings : after.settings = session.settings) (hsession : session.Tally) : after.Tally := by
  obtain ⟨decided, hdecided, hpunctual, hcount⟩ := hsession
  rw [Tally, hsettings]
  cases h with
  | heard hphase _ _ _ hmarks hafter hfailures _ =>
    have hsome := hdecided.marks_eq (by rw [hphase]; exact fun _ => Phase.noConfusion)
    refine ⟨_, Or.inl ⟨hmarks, ?_⟩, (Punctual.datagram (hsome ▸ hpunctual)).opening, ?_⟩
    · rw [hafter]
      exact openingPhase_ne_pacing session
    · rw [failureRow_opening, hfailures]
      rfl
  | paced hphase _ _ _ _ hmarks hafter hfailures _ =>
    have hsome := hdecided.marks_eq (by rw [hphase]; exact fun _ => Phase.noConfusion)
    rw [hsome] at hmarks
    exact ⟨decided, Or.inr ⟨_, _, hmarks, hafter⟩, hpunctual, hfailures.trans hcount⟩
  | tolerated hfails hle hmarks hafter hfailures _ =>
    obtain ⟨time, paced, hfailed⟩ := hfails.decided hdecided
    rw [hfailed] at hmarks
    have hnotDue : ¬Due session.settings.toleratedTimeouts.toNat decided := by
      rintro ⟨hcap, hrow⟩
      omega
    refine ⟨_, Or.inl ⟨hmarks, ?_⟩, (Punctual.failure hpunctual hnotDue).opening, ?_⟩
    · rw [hafter]
      exact openingPhase_ne_pacing session
    · rw [failureRow_opening, hfailures, hcount, failureRow]
      omega
  | outage hfails hlt hmarks hafter hfailures _ =>
    obtain ⟨time, paced, hfailed⟩ := hfails.decided hdecided
    rw [hfailed] at hmarks
    have hcap : session.settings.toleratedTimeouts.toNat < failureCap := by omega
    have hle := hpunctual.failureRow_le hcap
    have hdue : Due session.settings.toleratedTimeouts.toNat decided := ⟨hcap, by omega⟩
    by_cases hpulse : session.settings.readyPulse = 0
    · rw [if_pos hpulse] at hmarks hafter
      refine ⟨_, Or.inl ⟨hmarks, ?_⟩, (Punctual.outage hpunctual hdue).opening, ?_⟩
      · rw [hafter]
        exact openingPhase_ne_pacing session
      · rw [failureRow_opening, hfailures]
        rfl
    · rw [if_neg hpulse] at hmarks hafter
      refine ⟨_, Or.inl ⟨hmarks, ?_⟩, .outage hpunctual hdue, hfailures⟩
      intro u
      rw [hafter]
      exact Phase.noConfusion
  | pulseEnd hphase _ hmarks hafter hfailures _ =>
    have hsome := hdecided.marks_eq (by rw [hphase]; exact fun _ => Phase.noConfusion)
    refine ⟨_, Or.inl ⟨hmarks, ?_⟩, Punctual.opening (hsome ▸ hpunctual), ?_⟩
    · rw [hafter]
      exact openingPhase_ne_pacing session
    · rw [failureRow_opening, hfailures, hsome, hcount]

/-- At every instant outages have been punctual, and the count is the length of the row. -/
theorem Attained.tally {session : Session} (h : Attained session) : session.Tally := by
  refine Attained.induction tally_launch ?_ ?_ h
  · intro before after time _ _ hbeat hsetup hbefore
    exact hbeat.tally (congrArg Setup.settings hsetup) hbefore
  · rintro before after hidle ⟨decided, hdecided, hpunctual, hcount⟩
    refine ⟨decided, ?_, hidle.settings ▸ hpunctual, hidle.failures.trans hcount⟩
    rw [Decided, hidle.marks, hidle.phase]
    exact hdecided

/-- Every outage that an exchange ever declares stands directly behind a failure that was one too
    many. -/
theorem Attained.failure_of_outage {session : Session} (h : Attained session)
    {later earlier : List (Nat × Mark)} {time : Nat}
    (hmarks : session.marks = later ++ (time, .outage) :: earlier) :
    ∃ failed paced rest, earlier = (failed, .failure paced) :: rest
      ∧ Due session.settings.toleratedTimeouts.toNat rest := by
  obtain ⟨decided, hdecided, hpunctual, -⟩ := h.tally
  rcases hdecided with ⟨hall, -⟩ | ⟨failed, u, hlast, -⟩
  · exact hpunctual.failure_of_outage (hall.symm.trans hmarks)
  · have hcons := hlast.symm.trans hmarks
    cases later with
    | nil => cases hcons
    | cons latest later => exact hpunctual.failure_of_outage (List.cons.inj hcons).2

end Session

end PadLink
