import Mathlib.Logic.Relation
import PadLink.Session.Step

set_option autoImplicit false

/-! # Moves of a session

What happens to a session is a chain of moves: the exchange goes on at a wake-up, the clock passes over
a stretch without one, something is delivered, a caller writes to the bank, and the beginning and the
end leave their notes (`Move`). Only asking for a keystroke is kept apart, because it alone gives out
reports. Starting, stepping, sleeping and closing are made of these, however many wake-ups fall into
them, so an invariant has to be shown for the exchange's first round, for each move and for a keystroke
query, and then it holds in every state in which a caller can find a session (`Reachable.induction`).

`Reachable` are the sessions at the instants at which a caller runs: behind a successful start, behind
each step, and in between whenever a waiting caller wakes up to look at the bank again. -/

namespace PadLink

/-- The keystroke that an answer reports. -/
def Answer.report? : Answer → Option Keystroke
  | .keystroke (.ok report) => report
  | _ => none

namespace Session

open Relation (ReflTransGen)

/-- One thing that happens to a session without a keystroke being asked for. -/
inductive Move : Session → Session → Prop
  | wake {session : Session} {time : Nat} (h : session.nextWake = some time) :
      Move session (session.resume time)
  | pass {session : Session} {time : Nat} (h : ∀ wake ∈ session.nextWake, time < wake) :
      Move session (session.atTime time)
  | deliver {session : Session} (delivery : Delivery) :
      Move session { session with network := session.network.deliver delivery }
  | enable {session : Session} (on : Bool) : Move session (session.enable on)
  | vibrate {session : Session} (index : UInt32) (vibration : Vibration) :
      Move session (session.setVibration index vibration).2
  | acknowledge {session : Session} (peer : SocketAddress) :
      Move session (session.note (.acknowledged peer))
  | giveUp {session : Session} (peer : SocketAddress) (limit : Nat) :
      Move session (session.note (.unacknowledged peer limit))
  | tell {session : Session} : Move session { session.note .closing with closing := true }

/-- The second session comes from the first by moves. -/
abbrev Leads (session after : Session) : Prop := ReflTransGen Move session after

/-- The sessions at the instants at which a caller runs. -/
inductive Reachable : Session → Prop
  | opened {settings : Settings} {peer : SocketAddress} {network : Network}
      (hbind : network.obstacles.bind = none) (hspawn : network.obstacles.spawn = none) :
      Reachable (openWith settings peer network)
  | stepped {session after : Session} {step : Step} {answer : Answer} (h : Reachable session)
      (hstep : session.step step = some (answer, after)) : Reachable after
  /-- A caller that waits within a step is awake again. -/
  | slept {session after : Session} {ms : Nat} (h : Reachable session)
      (hsleep : session.sleep ms = some after) : Reachable after
  | closed {session : Session} (h : Reachable session) : Reachable session.close

/-! ## The passing of time -/

theorem leads_follow (horizon : Nat) (enough : Session → Bool) (session : Session) :
    session.Leads (session.follow horizon enough) := by
  fun_induction follow horizon enough session with
  | case1 session hnone => exact .refl
  | case2 session time hwake hdue ih => exact .head (.wake hwake) ih
  | case3 session time hwake hdue => exact .refl

theorem lt_nextWake_of_not_enough (horizon : Nat) (enough : Session → Bool) (session : Session)
    (h : enough (session.follow horizon enough) = false) :
    ∀ wake ∈ (session.follow horizon enough).nextWake, horizon < wake := by
  fun_induction follow horizon enough session with
  | case1 session hnone =>
    intro wake hwake
    rw [hnone] at hwake
    cases hwake
  | case2 session time hwake hdue ih => exact ih h
  | case3 session time hnext hdue =>
    intro wake hwake
    rw [hnext, Option.mem_some_iff] at hwake
    subst hwake
    exact Nat.lt_of_not_le fun hle => hdue ⟨hle, Or.inl h⟩

theorem leads_advanceTo (session : Session) (time : Nat) : session.Leads (session.advanceTo time) :=
  (leads_follow time _ session).tail (.pass (lt_nextWake_follow session time))

theorem leads_push (session : Session) (delivery : Delivery) :
    session.Leads (session.push delivery) :=
  .head (.deliver delivery) (leads_advanceTo _ _)

theorem leads_sleep {session after : Session} {ms : Nat} (h : session.sleep ms = some after) :
    session.Leads after := by
  unfold sleep at h
  dsimp only at h
  split at h
  · cases h
  · rw [← Option.some.inj h]
    exact leads_advanceTo session _

/-! ## Requests -/

/-- Moves and no report. -/
def Quiet (session : Session) (answer : Answer) (after : Session) : Prop :=
  session.Leads after ∧ answer.report? = none

section

variable {α β : Type} {session after : Session} {outcome : Option (α × Session)}

/-- What a request answers beside the session does not matter. -/
theorem Leads.of_some {last : Session} {a b : α} (hleads : session.Leads last)
    (h : some (a, last) = some (b, after)) : session.Leads after := by
  obtain ⟨-, rfl⟩ := Prod.mk.inj (Option.some.inj h)
  exact hleads

theorem Leads.of_map {f : α → β} {b : β}
    (hleads : ∀ a last, outcome = some (a, last) → session.Leads last)
    (h : outcome.map (fun found => (f found.1, found.2)) = some (b, after)) :
    session.Leads after := by
  obtain ⟨⟨a, last⟩, hfound, heq⟩ := Option.map_eq_some_iff.1 h
  exact (hleads a last hfound).of_some (congrArg some heq)

theorem Quiet.of_some {last : Session} {given answer : Answer} (hleads : session.Leads last)
    (hnone : given.report? = none) (h : some (given, last) = some (answer, after)) :
    session.Quiet answer after := by
  obtain ⟨rfl, rfl⟩ := Prod.mk.inj (Option.some.inj h)
  exact ⟨hleads, hnone⟩

theorem Quiet.of_map {f : α → Answer} {answer : Answer} (hnone : ∀ a, (f a).report? = none)
    (hleads : ∀ a last, outcome = some (a, last) → session.Leads last)
    (h : outcome.map (fun found => (f found.1, found.2)) = some (answer, after)) :
    session.Quiet answer after := by
  obtain ⟨⟨a, last⟩, hfound, heq⟩ := Option.map_eq_some_iff.1 h
  exact .of_some (hleads a last hfound) (hnone a) (congrArg some heq)

end

/-- However often a waiting caller looks, time has passed and nothing else. -/
theorem leads_lookForReady {since looks : Nat} {session after : Session}
    {outcome : Except Error Unit} (h : lookForReady since looks session = some (outcome, after)) :
    session.Leads after := by
  -- Each look begins from where the last sleep led to.
  induction looks generalizing session with
  | zero => cases h
  | succ looks ih =>
    unfold lookForReady at h
    split at h
    · exact Leads.of_some .refl h
    · split at h
      · exact Leads.of_some .refl h
      · split at h
        · exact Leads.of_some .refl h
        · obtain ⟨rested, hsleep, hrest⟩ := Option.bind_eq_some_iff.1 h
          exact (leads_sleep hsleep).trans (ih hrest)

theorem leads_askSlot {α : Type} {session after : Session} {index : UInt32}
    {ask : Slot → Except Error α} {outcome : Except Error α}
    (h : session.askSlot index ask = some (outcome, after)) : session.Leads after := by
  unfold askSlot at h
  split at h
  · exact Leads.of_some .refl h
  · split at h
    · cases h
    · next hwait => exact (leads_lookForReady hwait).of_some h
    · next hwait =>
      dsimp only at h
      split at h
      · exact (leads_lookForReady hwait).of_some h
      · exact (leads_lookForReady hwait).of_some h

/-- A request is a chain of moves and reports nothing, or it is a keystroke query. -/
theorem leads_answer {session after : Session} {request : Request} {answer : Answer}
    (h : session.answer request = some (answer, after)) :
    session.Quiet answer after
      ∨ ∃ selector, answer = .keystroke (session.nextKeystroke selector).1
          ∧ after = (session.nextKeystroke selector).2 := by
  cases request with
  | keystroke selector =>
    obtain ⟨rfl, rfl⟩ := Prod.mk.inj (Option.some.inj h)
    exact Or.inr ⟨selector, rfl, rfl⟩
  | enable on => exact Or.inl (.of_some (.single (.enable on)) rfl h)
  | setVibration index vibration =>
    exact Or.inl (.of_some (.single (.vibrate index vibration)) rfl h)
  | state index =>
    refine Or.inl (.of_map (fun _ => rfl) (fun _ _ hstate => ?_) h)
    exact .of_map (fun _ _ hextended => leads_askSlot hextended) hstate
  | extendedState index =>
    exact Or.inl (.of_map (fun _ => rfl) (fun _ _ hextended => leads_askSlot hextended) h)
  | capabilities index flags =>
    refine Or.inl (.of_map (fun _ => rfl) (fun _ _ hcapabilities => ?_) h)
    exact .of_map (fun _ _ hextended => leads_askSlot hextended) hcapabilities
  | extendedCapabilities index flags =>
    exact Or.inl (.of_map (fun _ => rfl) (fun _ _ hextended => leads_askSlot hextended) h)
  | battery index kind => exact Or.inl (.of_some .refl rfl h)
  | audioDevices index => exact Or.inl (.of_some .refl rfl h)
  | status index => exact Or.inl (.of_some .refl rfl h)
  | peer => exact Or.inl (.of_some .refl rfl h)

theorem leads_step {session after : Session} {step : Step} {answer : Answer}
    (h : session.step step = some (answer, after)) :
    session.Quiet answer after
      ∨ ∃ selector, answer = .keystroke (session.nextKeystroke selector).1
          ∧ after = (session.nextKeystroke selector).2 := by
  cases step with
  | push delivery => exact Or.inl (.of_some (leads_push session delivery) rfl h)
  | advance ms => exact Or.inl (.of_some (leads_advanceTo session _) rfl h)
  | request request => exact leads_answer h

/-! ## The beginning and the end -/

theorem leads_awaitHandshake (session : Session) : session.Leads session.awaitHandshake := by
  have hfollow := leads_follow (session.now + session.settings.handshakeWait) acknowledged session
  unfold awaitHandshake
  dsimp only
  split
  · exact hfollow.tail (.acknowledge _)
  · next hunheard =>
    have hlater := lt_nextWake_of_not_enough _ acknowledged session (Bool.eq_false_iff.2 hunheard)
    exact (hfollow.tail (.pass hlater)).tail (.giveUp _ _)

theorem leads_finishWait (session : Session) : session.Leads session.finishWait := by
  unfold finishWait
  split
  · next time hwake => exact .single (.wake hwake)
  · exact .refl

theorem leads_unblock (session : Session) : session.Leads session.unblock := by
  unfold unblock
  split
  · exact .single (.deliver _)
  · exact .refl

theorem leads_close (session : Session) : session.Leads session.close := by
  unfold close
  split
  · exact .refl
  · refine .head .tell ((leads_unblock _).trans ?_)
    exact ((leads_finishWait _).trans (leads_finishWait _)).trans (leads_finishWait _)

/-! ## Invariants -/

theorem obstacles_knock (settings : Settings) (peer : SocketAddress) (network : Network) :
    (knock settings peer network).obstacles = network.obstacles := by
  unfold knock
  dsimp only
  split
  · rfl
  · rfl

/-- A successful start waits for the handshake in the first round of the exchange. -/
theorem openWith_of_unobstructed {settings : Settings} {peer : SocketAddress} {network : Network}
    (hbind : network.obstacles.bind = none) (hspawn : network.obstacles.spawn = none) :
    openWith settings peer network
      = (launch settings peer (knock settings peer network)).awaitHandshake := by
  simp only [openWith, hbind, obstacles_knock, hspawn]

theorem Leads.induction {P : Session → Prop} {session after : Session} (h : session.Leads after)
    (hmove : ∀ before after, Move before after → P before → P after) (hsession : P session) :
    P after := by
  induction h with
  | refl => exact hsession
  | tail _ hlast ih => exact hmove _ _ hlast ih

/-- What holds in the first round and is kept by every move and every keystroke query holds wherever
    a caller runs. -/
theorem Reachable.induction {P : Session → Prop}
    (hlaunch : ∀ settings peer network, P (launch settings peer network))
    (hmove : ∀ before after, Move before after → P before → P after)
    (hask : ∀ session selector, P session → P (nextKeystroke session selector).2)
    {session : Session} (h : Reachable session) : P session := by
  induction h with
  | opened hbind hspawn =>
    rw [openWith_of_unobstructed hbind hspawn]
    exact (leads_awaitHandshake _).induction hmove (hlaunch _ _ _)
  | stepped _ hstep ih =>
    rcases leads_step hstep with ⟨hleads, -⟩ | ⟨selector, -, rfl⟩
    · exact hleads.induction hmove ih
    · exact hask _ selector ih
  | slept _ hsleep ih => exact (leads_sleep hsleep).induction hmove ih
  | closed _ ih => exact (leads_close _).induction hmove ih

/-! ## Whole runs -/

theorem run_cons_of_none {session : Session} {step : Step} (h : session.step step = none)
    (rest : List Step) : session.run (step :: rest) = none := by
  rw [run, h]
  rfl

theorem run_cons_of_step {session after : Session} {step : Step} {answer : Answer}
    (h : session.step step = some (answer, after)) (rest : List Step) :
    session.run (step :: rest) = (after.run rest).map fun more => (answer :: more.1, more.2) := by
  rw [run, h]
  show (after.run rest).bind _ = _
  cases after.run rest <;> rfl

theorem run_cons_eq_some {session last : Session} {step : Step} {rest : List Step}
    {answers : List Answer} :
    session.run (step :: rest) = some (answers, last)
      ↔ ∃ answer next others, session.step step = some (answer, next)
          ∧ next.run rest = some (others, last) ∧ answers = answer :: others := by
  constructor
  · intro h
    cases hstep : session.step step with
    | none =>
      rw [run_cons_of_none hstep] at h
      cases h
    | some found =>
      rw [run_cons_of_step hstep] at h
      obtain ⟨⟨others, last'⟩, hrest, heq⟩ := Option.map_eq_some_iff.1 h
      obtain ⟨rfl, rfl⟩ := Prod.mk.inj heq
      exact ⟨found.1, found.2, others, rfl, hrest, rfl⟩
  · rintro ⟨answer, next, others, hstep, hrest, rfl⟩
    rw [run_cons_of_step hstep, hrest]
    rfl

theorem run_append (session : Session) (before rest : List Step) :
    session.run (before ++ rest) = (session.run before).bind fun found =>
      (found.2.run rest).map fun more => (found.1 ++ more.1, more.2) := by
  induction before generalizing session with
  | nil =>
    show session.run rest = (session.run rest).map id
    rw [Option.map_id]
    rfl
  | cons step before ih =>
    cases hstep : session.step step with
    | none => rw [List.cons_append, run_cons_of_none hstep, run_cons_of_none hstep]; rfl
    | some found =>
      rw [List.cons_append, run_cons_of_step hstep, run_cons_of_step hstep, ih]
      cases found.2.run before with
      | none => rfl
      | some more =>
        simp only [Option.bind_some, Option.map_some, Option.map_map]
        rfl

theorem length_run {session last : Session} {steps : List Step} {answers : List Answer}
    (h : session.run steps = some (answers, last)) : answers.length = steps.length := by
  induction steps generalizing session answers with
  | nil =>
    rw [← (Prod.mk.inj (Option.some.inj h)).1]
    rfl
  | cons step rest ih =>
    obtain ⟨answer, next, others, -, hrest, rfl⟩ := run_cons_eq_some.1 h
    rw [List.length_cons, List.length_cons, ih hrest]

theorem Reachable.run {session last : Session} {steps : List Step} {answers : List Answer}
    (h : Reachable session) (hrun : session.run steps = some (answers, last)) :
    Reachable last := by
  induction steps generalizing session answers with
  | nil =>
    obtain ⟨-, rfl⟩ := Prod.mk.inj (Option.some.inj hrun)
    exact h
  | cons step rest ih =>
    obtain ⟨answer, next, others, hstep, hrest, -⟩ := run_cons_eq_some.1 hrun
    exact ih (h.stepped hstep) hrest

end Session

end PadLink
