import PadLink.Proofs.Session.Attained

set_option autoImplicit false

/-! # The looks of a waiting caller

A caller that waits for readiness looks at the bank, sleeps, and looks again. How the passing of time
is cut into parts makes no difference, so what it finds at a look is the session as it would be if all
the sleeps before had been one (`Session.look`).

The wait goes on as long as there is neither readiness nor an end of the caller's own patience
(`Rests`), and it ends with the first look that finds one of them: `waitReady_of_ready` says so for
readiness, also that the number of looks allowed for is not used up before. -/

namespace PadLink.Session

/-! ## Time that passes -/

/-- However time passes, only the clock changes of what the exchange finds. -/
theorem setup_follow (horizon : Nat) (enough : Session → Bool) (session : Session) :
    ∃ time, (session.follow horizon enough).setup = { session.setup with now := time } := by
  fun_induction follow horizon enough session with
  | case1 session hnone => exact ⟨session.now, rfl⟩
  | case2 session time hwake hdue ih =>
    obtain ⟨last, hlast⟩ := ih
    rw [setup_resume] at hlast
    exact ⟨last, hlast⟩
  | case3 session time hwake hdue => exact ⟨session.now, rfl⟩

theorem setup_advanceTo {session : Session} {time : Nat} (h : session.now ≤ time) :
    (session.advanceTo time).setup = { session.setup with now := time } := by
  obtain ⟨last, hlast⟩ := setup_follow time (fun _ => false) session
  have hclock : (session.advanceTo time).setup
      = { (session.follow time fun _ => false).setup with now := (session.advanceTo time).now } := rfl
  rw [hclock, hlast, now_advanceTo h]

theorem settings_advanceTo {session : Session} {time : Nat} (h : session.now ≤ time) :
    (session.advanceTo time).settings = session.settings :=
  congrArg Setup.settings (setup_advanceTo h)

theorem Reachable.advanceTo {session : Session} {time : Nat} (h : Reachable session)
    (htime : session.now ≤ time) : Reachable (session.advanceTo time) := by
  have hstep : session.step (.advance (time - session.now))
      = some (.nothing, session.advanceTo (session.now + (time - session.now))) := rfl
  rw [Nat.add_sub_cancel' htime] at hstep
  exact h.stepped hstep

/-- What a caller that sleeps between its looks finds at a look. -/
def look (session : Session) (count : Nat) : Session :=
  session.advanceTo (session.now + count * session.settings.readyPoll)

section

variable (session : Session) (count : Nat)

theorem setup_look : (session.look count).setup
    = { session.setup with now := session.now + count * session.settings.readyPoll } :=
  setup_advanceTo (Nat.le_add_right _ _)

theorem now_look : (session.look count).now = session.now + count * session.settings.readyPoll :=
  congrArg Setup.now (setup_look session count)

theorem settings_look : (session.look count).settings = session.settings :=
  settings_advanceTo (Nat.le_add_right _ _)

/-- One sleep more leads to the next look. -/
theorem advance_look : (session.look count).advance session.settings.readyPoll
    = session.look (count + 1) := by
  have htime : session.now + count * session.settings.readyPoll + session.settings.readyPoll
      = session.now + (count + 1) * session.settings.readyPoll := by
    rw [Nat.succ_mul, Nat.add_assoc]
  rw [advance, now_look, htime, look, look]
  refine advanceTo_advanceTo session ?_
  rw [← htime]
  exact Nat.le_add_right _ _

end

theorem Settled.look_zero {session : Session} (h : session.Settled) : session.look 0 = session := by
  rw [look, Nat.zero_mul, Nat.add_zero, h.advanceTo_now]

theorem Reachable.look {session : Session} (h : Reachable session) (count : Nat) :
    Reachable (session.look count) :=
  h.advanceTo (Nat.le_add_right _ _)

theorem sleep_look {session : Session} {count : Nat}
    (hstop : ∀ stop ∈ session.network.stopAt,
      session.now + (count + 1) * session.settings.readyPoll < stop) :
    (session.look count).sleep session.settings.readyPoll = some (session.look (count + 1)) := by
  have hsetup : (session.look (count + 1)).network.stopAt = session.network.stopAt :=
    congrArg Setup.stopAt (setup_look session (count + 1))
  unfold sleep
  rw [advance_look]
  dsimp only
  rw [hsetup, now_look]
  split
  · next hends =>
    obtain ⟨stop, hmem, hle⟩ := (Option.any_eq_true _ _).1 hends
    have hlater := hstop stop hmem
    exact absurd (of_decide_eq_true hle) (by omega)
  · rfl

/-! ## The end of a wait -/

/-- Whether a look finds nothing that ends the wait. -/
def Rests (since : Nat) (session : Session) : Prop :=
  session.bank.ready = false ∧ ∀ limit ∈ session.settings.readyTimeout, session.now < since + limit

section

variable {session : Session} {since looks : Nat} (hcheck : session.check = .ok ())

include hcheck

theorem lookForReady_of_rests (h : session.Rests since) :
    lookForReady since (looks + 1) session
      = (session.sleep session.settings.readyPoll).bind (lookForReady since looks) := by
  obtain ⟨hready, hlimit⟩ := h
  have hnone : session.settings.readyTimeout.filter (since + · ≤ session.now) = none := by
    rw [Option.filter_eq_none_iff]
    intro limit hmem
    have := hlimit limit hmem
    simp only [decide_eq_true_eq]
    omega
  rw [lookForReady, hcheck]
  dsimp only
  rw [if_neg (by simp [hready]), hnone]

theorem lookForReady_of_ready (h : session.bank.ready = true) :
    lookForReady since (looks + 1) session = some (.ok (), session) := by
  rw [lookForReady, hcheck]
  dsimp only
  rw [if_pos h]

theorem lookForReady_of_not_rests (h : ¬session.Rests since) :
    ∃ outcome, lookForReady since (looks + 1) session = some (outcome, session) := by
  cases hready : session.bank.ready with
  | true => exact ⟨_, lookForReady_of_ready hcheck hready⟩
  | false =>
    rw [lookForReady, hcheck]
    dsimp only
    rw [if_neg (by simp [hready])]
    cases hpassed : session.settings.readyTimeout.filter (since + · ≤ session.now) with
    | some limit => exact ⟨_, rfl⟩
    | none =>
      -- A limit that has not passed leaves the caller at rest.
      refine absurd ⟨hready, fun limit hmem => ?_⟩ h
      have hnot := Option.filter_eq_none_iff.1 hpassed limit hmem
      simpa using hnot

end

section

variable {session : Session} (h : Reachable session) (hopen : session.closing = false)

include h hopen

theorem check_look (count : Nat) : (session.look count).check = .ok () :=
  (h.look count).attained.check_eq_ok
    ((congrArg Setup.closing (setup_look session count)).trans hopen)

/-- Looks that find nothing only use up some of the looks that are allowed for. -/
theorem lookForReady_eq_look {looks count : Nat}
    (hrests : ∀ earlier < count, (session.look earlier).Rests session.now) (hle : count ≤ looks)
    (hstop : ∀ stop ∈ session.network.stopAt,
      session.now + count * session.settings.readyPoll < stop) :
    lookForReady session.now looks session
      = lookForReady session.now (looks - count) (session.look count) := by
  induction count with
  | zero => rw [(h.settled hopen).look_zero, Nat.sub_zero]
  | succ count ih =>
    have hearlier : ∀ stop ∈ session.network.stopAt,
        session.now + count * session.settings.readyPoll < stop := by
      intro stop hmem
      have := hstop stop hmem
      rw [Nat.succ_mul] at this
      omega
    rw [ih (fun earlier hlt => hrests earlier (Nat.lt_succ_of_lt hlt)) (Nat.le_of_succ_le hle) hearlier]
    have hlooks : looks - count = looks - (count + 1) + 1 := by omega
    rw [hlooks, lookForReady_of_rests (check_look h hopen count) (hrests count (Nat.lt_succ_self _)),
      settings_look, sleep_look hstop]
    rfl

/-- A wait that begins now has not ended before the time. -/
def WaitsUntil (session : Session) (time : Nat) : Prop :=
  ∀ outcome after, session.waitReady = some (outcome, after) → time ≤ after.now

/-- The looks before the end of a wait have found nothing. -/
theorem rests_of_waitsUntil {time : Nat} (hwaits : session.WaitsUntil time)
    (hstop : ∀ stop ∈ session.network.stopAt, time ≤ stop) (count : Nat)
    (hpatience : count < session.patience)
    (htime : session.now + count * session.settings.readyPoll < time) :
    (session.look count).Rests session.now := by
  induction count using Nat.strongRecOn with
  | _ count ih =>
    refine Classical.byContradiction fun hends => ?_
    have hrests : ∀ earlier < count, (session.look earlier).Rests session.now := by
      intro earlier hlt
      have hmul := Nat.mul_le_mul_right session.settings.readyPoll (Nat.le_of_lt hlt)
      exact ih earlier hlt (by omega) (by omega)
    have hgoes : ∀ stop ∈ session.network.stopAt,
        session.now + count * session.settings.readyPoll < stop :=
      fun stop hmem => Nat.lt_of_lt_of_le htime (hstop stop hmem)
    obtain ⟨left, hleft⟩ : ∃ left, session.patience - count = left + 1 :=
      ⟨session.patience - count - 1, by omega⟩
    obtain ⟨outcome, hlook⟩ : ∃ outcome, lookForReady session.now (left + 1) (session.look count)
        = some (outcome, session.look count) :=
      lookForReady_of_not_rests (check_look h hopen count) hends
    have hwait : session.waitReady = some (outcome, session.look count) := by
      rw [waitReady, lookForReady_eq_look h hopen hrests (Nat.le_of_lt hpatience) hgoes, hleft, hlook]
    have hlater := hwaits _ _ hwait
    rw [now_look] at hlater
    omega

/-- A wait that has not ended before some look ends with it if that finds readiness. -/
theorem waitReady_of_ready {count time : Nat} (hwaits : session.WaitsUntil time)
    (hearlier : ∀ earlier < count, session.now + earlier * session.settings.readyPoll < time)
    (hready : (session.look count).bank.ready = true)
    (hpatience : session.settings.readyTimeout = none → count < session.patience)
    (hstop : ∀ stop ∈ session.network.stopAt,
      time ≤ stop ∧ session.now + count * session.settings.readyPoll < stop) :
    session.waitReady = some (.ok (), session.look count) := by
  have hrests : ∀ earlier < count, earlier < session.patience →
      (session.look earlier).Rests session.now := fun earlier hlt hpatience =>
    rests_of_waitsUntil h hopen hwaits (fun stop hmem => (hstop stop hmem).1) earlier hpatience
      (hearlier earlier hlt)
  have hcount : count < session.patience := by
    cases htimeout : session.settings.readyTimeout with
    | none => exact hpatience htimeout
    | some limit =>
      -- The last look that is allowed for comes when the limit has passed.
      have hlast : session.patience = limit / session.settings.readyPoll + 2 := by
        simp only [patience, htimeout, Option.getD_some]
      rw [hlast]
      refine Nat.lt_of_not_le fun hover => ?_
      have hpassed := (hrests (limit / session.settings.readyPoll + 1) (by omega)
        (by omega)).2 limit (by rw [settings_look, htimeout]; rfl)
      have hlimit := Nat.lt_mul_div_succ limit session.settings.readyPoll_pos
      rw [now_look, Nat.mul_comm] at hpassed
      omega
  obtain ⟨left, hleft⟩ : ∃ left, session.patience - count = left + 1 :=
    ⟨session.patience - count - 1, by omega⟩
  rw [waitReady, lookForReady_eq_look h hopen (fun earlier hlt => hrests earlier hlt (by omega))
    (Nat.le_of_lt hcount) fun stop hmem => (hstop stop hmem).2, hleft,
    lookForReady_of_ready (check_look h hopen count) hready]

end

/-- Where a wait has ended a caller runs. -/
theorem Reachable.lookForReady {since looks : Nat} {session after : Session}
    {outcome : Except Error Unit} (h : Reachable session)
    (hlook : Session.lookForReady since looks session = some (outcome, after)) : Reachable after :=
  lookForReady_induction (fun _ _ _ hsleep hbefore => hbefore.slept hsleep) hlook h

/-- A wait that succeeds ends with readiness. -/
theorem ready_of_lookForReady {since looks : Nat} {session after : Session}
    (h : Session.lookForReady since looks session = some (.ok (), after)) :
    after.bank.ready = true := by
  induction looks generalizing session with
  | zero => cases h
  | succ looks ih =>
    unfold Session.lookForReady at h
    split at h
    · cases h
    · split at h
      · next hready =>
        obtain ⟨-, rfl⟩ := Prod.mk.inj (Option.some.inj h)
        exact hready
      · split at h
        · cases h
        · obtain ⟨rested, -, hrest⟩ := Option.bind_eq_some_iff.1 h
          exact ih hrest

/-! ## Questions that wait -/

/-- A question about a slot is answered where the wait for readiness ends. -/
theorem askSlot_of_waitReady {α : Type} {session after : Session} {index : UInt32}
    {slot : SlotIndex} (hslot : index.toNat = slot.val)
    (hwait : session.waitReady = some (.ok (), after)) (ask : Slot → Except Error α) :
    session.askSlot index ask = some
      (if (after.bank.slot slot).connected then ask (after.bank.slot slot)
        else .error (.notConnected index), after) := by
  unfold askSlot
  rw [SlotIndex.check_eq_ok.2 hslot, hwait]
  dsimp only
  split
  · rfl
  · rfl

/-- All four questions that wait are answered in the session `after`, and find no controller. -/
def FindsVacant (session : Session) (index : UInt32) (after : Session) : Prop :=
  session.state index = some (.error (.notConnected index), after)
    ∧ session.extendedState index = some (.error (.notConnected index), after)
    ∧ (∀ flags, session.capabilities index flags = some (.error (.notConnected index), after))
    ∧ ∀ flags, session.extendedCapabilities index flags = some (.error (.notConnected index), after)

theorem findsVacant_of_waitReady {session after : Session} {index : UInt32} {slot : SlotIndex}
    (hslot : index.toNat = slot.val) (hwait : session.waitReady = some (.ok (), after))
    (hvacant : (after.bank.slot slot).connected = false) : session.FindsVacant index after := by
  have hask : ∀ {α : Type} (ask : Slot → Except Error α),
      session.askSlot index ask = some (.error (.notConnected index), after) := by
    intro α ask
    rw [askSlot_of_waitReady hslot hwait, hvacant]
    rfl
  refine ⟨?_, hask _, fun flags => ?_, fun flags => hask _⟩
  · rw [state, extendedState, hask]
    rfl
  · rw [capabilities, extendedCapabilities, hask]
    rfl

end PadLink.Session
