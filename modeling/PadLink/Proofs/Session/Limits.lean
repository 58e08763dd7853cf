import Mathlib.Data.Nat.Find
import PadLink.Proofs.Session.Queries

set_option autoImplicit false

/-! # Waits with a limit

A caller that waits for readiness with a limit looks at fixed times, one sleep apart, and its wait ends
with the first look that finds readiness or the limit passed (`EndsAt`). What the flag does between two
looks makes no difference, and where both hold at once readiness counts. Some look comes behind the limit,
whatever the exchange does, so the wait ends less than one sleep behind it (`exists_first_end`), and the
looks that a caller is allowed reach that far (`waitReady_of_first_end`).

`bounded_wait` says this of the four questions that wait, and that an index without a slot is refused in
every session at once. -/

namespace PadLink

/-- The index in a question that waits for readiness. -/
def Request.waitingIndex? : Request → Option UInt32
  | state index => some index
  | extendedState index => some index
  | capabilities index _ => some index
  | extendedCapabilities index _ => some index
  | _ => none

namespace Session

/-! ## The end of a wait -/

/-- Whether the look ends a wait with a limit: it finds readiness, or the limit has passed. -/
def EndsAt (session : Session) (limit count : Nat) : Prop :=
  (session.look count).bank.ready = true ∨ limit ≤ count * session.settings.readyPoll

instance (session : Session) (limit count : Nat) : Decidable (session.EndsAt limit count) :=
  inferInstanceAs (Decidable (_ ∨ _))

/-- Of all looks one is the first that ends the wait, and it comes less than one sleep behind the
    limit. -/
theorem exists_first_end (session : Session) (limit : Nat) :
    ∃ count, session.EndsAt limit count ∧ (∀ earlier < count, ¬session.EndsAt limit earlier)
      ∧ count * session.settings.readyPoll < limit + session.settings.readyPoll := by
  have hpoll := session.settings.readyPoll_pos
  have hpassed : session.EndsAt limit (limit / session.settings.readyPoll + 1) := by
    have hover := Nat.lt_mul_div_succ limit hpoll
    rw [Nat.mul_comm] at hover
    exact Or.inr (Nat.le_of_lt hover)
  have hends : ∃ count, session.EndsAt limit count := ⟨_, hpassed⟩
  refine ⟨Nat.find hends, Nat.find_spec hends, fun earlier => Nat.find_min hends, ?_⟩
  rcases hfirst : Nat.find hends with _ | earlier
  · omega
  · -- The look before has not come to the limit.
    have hbefore : ¬session.EndsAt limit earlier := Nat.find_min hends (by omega)
    have hshort := Nat.lt_of_not_le (not_or.1 hbefore).2
    rw [Nat.succ_mul]
    omega

/-- A look that finds the limit passed and no readiness ends the wait for want of readiness. -/
theorem lookForReady_of_passed {session : Session} {since looks limit : Nat}
    (hcheck : session.check = .ok ()) (hready : session.bank.ready = false)
    (hlimit : session.settings.readyTimeout = some limit) (hpassed : since + limit ≤ session.now) :
    lookForReady since (looks + 1) session = some (.error (.notReady limit), session) := by
  have hfilter : session.settings.readyTimeout.filter (since + · ≤ session.now) = some limit := by
    rw [hlimit, Option.filter_some, if_pos (by simpa using hpassed)]
  rw [lookForReady, hcheck]
  dsimp only
  rw [if_neg (by simp [hready]), hfilter]

/-- A wait with a limit ends with the first look that ends it, and it fails if that finds no
    readiness. -/
theorem waitReady_of_first_end {session : Session} (h : Reachable session)
    (hopen : session.closing = false) {limit count : Nat}
    (hlimit : session.settings.readyTimeout = some limit) (hends : session.EndsAt limit count)
    (hearlier : ∀ earlier < count, ¬session.EndsAt limit earlier)
    (hsoon : count * session.settings.readyPoll < limit + session.settings.readyPoll)
    (hstop : ∀ stop ∈ session.network.stopAt,
      session.now + count * session.settings.readyPoll < stop) :
    session.waitReady = some (if (session.look count).bank.ready then .ok ()
      else .error (.notReady limit), session.look count) := by
  have hrests : ∀ earlier < count, (session.look earlier).Rests session.now := by
    intro earlier hlt
    obtain ⟨hready, hshort⟩ := not_or.1 (hearlier earlier hlt)
    refine ⟨Bool.eq_false_iff.2 hready, fun other hother => ?_⟩
    rw [settings_look, hlimit, Option.mem_some_iff] at hother
    rw [now_look, ← hother]
    omega
  have hpatience : session.patience = limit / session.settings.readyPoll + 2 := by
    simp only [patience, hlimit, Option.getD_some]
  have hcount : count < session.patience := by
    have hfit : count ≤ limit / session.settings.readyPoll + 1 := by
      rw [← Nat.add_div_right limit session.settings.readyPoll_pos]
      exact (Nat.le_div_iff_mul_le session.settings.readyPoll_pos).2 (Nat.le_of_lt hsoon)
    omega
  obtain ⟨left, hleft⟩ : ∃ left, session.patience - count = left + 1 :=
    ⟨session.patience - count - 1, by omega⟩
  have hcheck := check_look h hopen count
  rw [waitReady, lookForReady_eq_look h hopen hrests (Nat.le_of_lt hcount) hstop, hleft]
  cases hready : (session.look count).bank.ready with
  | true => rw [lookForReady_of_ready hcheck hready, if_pos rfl]
  | false =>
    have hpassed := hends.resolve_left (by simp [hready])
    rw [lookForReady_of_passed hcheck hready ((congrArg _ (settings_look session count)).trans hlimit)
      (by rw [now_look]; omega)]
    rfl

/-! ## The four questions -/

/-- A question that waits asks something of a slot, and never complains itself of missing readiness. -/
theorem exists_ask {request : Request} {index : UInt32} (h : request.waitingIndex? = some index) :
    ∃ (α : Type) (ask : Slot → Except Error α) (tell : Except Error α → Answer),
      (∀ session : Session, session.answer request
        = (session.askSlot index ask).map fun found => (tell found.1, found.2))
      ∧ (∀ outcome error, answerError? (tell outcome) = some error ↔ outcome = .error error)
      ∧ ∀ slot limit, ask slot ≠ .error (.notReady limit) := by
  cases request with
  | state other =>
    obtain rfl := Option.some.inj h
    refine ⟨_, fun slot => .ok slot.state, fun outcome => .state (outcome.map fun state =>
      { state with gamepad := state.gamepad.withoutGuide }), fun session => ?_, ?_, fun _ _ => nofun⟩
    · simp only [answer, Session.state, extendedState, Option.map_map]
      rfl
    · rintro (error | found) <;> simp [Except.map, answerError?]
  | extendedState other =>
    obtain rfl := Option.some.inj h
    refine ⟨_, fun slot => .ok slot.state, .state, fun session => rfl, ?_, fun _ _ => nofun⟩
    rintro (error | found) <;> simp [answerError?]
  | capabilities other flags =>
    obtain rfl := Option.some.inj h
    refine ⟨_, fun slot => if flags &&& Capabilities.gamepadOnly ≠ 0
        ∧ slot.capabilities.subType ≠ Capabilities.gamepadType then .error (.notConnected other)
      else .ok (.ofCapabilities slot.capabilities),
      fun outcome => .capabilities (outcome.map ExtendedCapabilities.capabilities),
      fun session => ?_, ?_, fun slot limit => ?_⟩
    · simp only [answer, Session.capabilities, extendedCapabilities, Option.map_map]
      rfl
    · rintro (error | found) <;> simp [Except.map, answerError?]
    · dsimp only
      split <;> simp
  | extendedCapabilities other flags =>
    obtain rfl := Option.some.inj h
    refine ⟨_, fun slot => if flags &&& Capabilities.gamepadOnly ≠ 0
        ∧ slot.capabilities.subType ≠ Capabilities.gamepadType then .error (.notConnected other)
      else .ok (.ofCapabilities slot.capabilities), .extendedCapabilities, fun session => rfl, ?_,
      fun slot limit => ?_⟩
    · rintro (error | found) <;> simp [answerError?]
    · dsimp only
      split <;> simp
  | _ => cases h

/-- Where the wait ends a question is answered, and for want of readiness just when the wait failed. -/
theorem answer_of_waitReady {session after : Session} {request : Request} {index : UInt32}
    {limit : Nat} (h : request.waitingIndex? = some index) (hindex : index.toNat < slotCount)
    (hwait : session.waitReady = some (if after.bank.ready then .ok ()
      else .error (.notReady limit), after)) :
    ∃ answer, session.answer request = some (answer, after)
      ∧ (answerError? answer = some (.notReady limit) ↔ after.bank.ready = false) := by
  have hslot : index.toNat = (⟨index.toNat, hindex⟩ : SlotIndex).val := rfl
  obtain ⟨α, ask, tell, hanswer, herror, hask⟩ := exists_ask h
  rw [hanswer]
  cases hready : after.bank.ready with
  | true =>
    rw [hready, if_pos rfl] at hwait
    rw [askSlot_of_waitReady hslot hwait]
    refine ⟨_, rfl, iff_of_false (fun hnot => ?_) (by simp)⟩
    rw [herror] at hnot
    split at hnot
    · exact hask _ _ hnot
    · cases hnot
  | false =>
    have hasked : session.askSlot index ask = some (.error (.notReady limit), after) := by
      rw [hready, if_neg (by simp)] at hwait
      rw [askSlot, SlotIndex.check_eq_ok.2 hslot, hwait]
    rw [hasked]
    exact ⟨_, rfl, iff_of_true ((herror _ _).2 rfl) rfl⟩

/-- A question that waits, in a session whose settings set a limit, is answered at the first of its looks
    that finds readiness or the limit passed; the answer is that the server was not ready just when that
    look finds no readiness. So, unless the program has ended by then, there is always an answer, it comes
    less than one sleep behind the limit, and never says before the limit that the server was not ready. A
    question about an index without a slot is refused in every session, and takes no time. -/
theorem bounded_wait (session : Session) :
    (Reachable session → session.closing = false →
        ∀ limit, session.settings.readyTimeout = some limit →
        ∃ count after, session.EndsAt limit count ∧ (∀ earlier < count, ¬session.EndsAt limit earlier)
          ∧ after = session.advanceTo (session.now + count * session.settings.readyPoll)
          ∧ after.now = session.now + count * session.settings.readyPoll
          ∧ after.now < session.now + limit + session.settings.readyPoll
          ∧ ((∀ stop ∈ session.network.stopAt, after.now < stop) →
            ∀ request index, Request.waitingIndex? request = some index → index.toNat < slotCount →
              ∃ answer, session.answer request = some (answer, after)
                ∧ (answerError? answer = some (.notReady limit) ↔ after.bank.ready = false)
                ∧ (answerError? answer = some (.notReady limit) → session.now + limit ≤ after.now)))
      ∧ ∀ request index, Request.waitingIndex? request = some index → slotCount ≤ index.toNat →
        ∃ answer, session.answer request = some (answer, session)
          ∧ answerError? answer = some (.invalidSlot index) := by
  constructor
  · intro h hopen limit hlimit
    obtain ⟨count, hends, hearlier, hsoon⟩ := session.exists_first_end limit
    have hnow := now_look session count
    refine ⟨count, session.look count, hends, hearlier, rfl, hnow, by omega, ?_⟩
    intro hstop request index hrequest hindex
    rw [hnow] at hstop
    have hwait := waitReady_of_first_end h hopen hlimit hends hearlier hsoon hstop
    obtain ⟨answer, hanswer, hnotReady⟩ := answer_of_waitReady hrequest hindex hwait
    refine ⟨answer, hanswer, hnotReady, fun herror => ?_⟩
    have hpassed := hends.resolve_left (by simp [hnotReady.1 herror])
    omega
  · intro request index hrequest hindex
    obtain ⟨α, ask, tell, hanswer, herror, -⟩ := exists_ask hrequest
    have hasked : session.askSlot index ask = some (.error (.invalidSlot index), session) := by
      rw [askSlot, SlotIndex.check_eq_error.2 ⟨hindex, rfl⟩]
    rw [hanswer, hasked]
    exact ⟨_, rfl, (herror _ _).2 rfl⟩

/-- A session with a silent server, in which callers wait for 300 milliseconds. -/
def impatientSession : Session :=
  openWith { handshakeWaitMs := 0, readyTimeoutMs := some 300 } (.v4 IPv4.localhost 0) {}

/-- The caller sleeps for 125 milliseconds at a time, so it is answered at the third look behind its
    first. -/
theorem bounded_wait_in_impatientSession : ∃ answer after,
    impatientSession.answer (.state 2) = some (answer, after) ∧ after.now = 375
      ∧ answerError? answer = some (.notReady 300) := by
  have hlast : impatientSession.EndsAt 300 3 ∧ (impatientSession.look 3).bank.ready = false := by
    decide +kernel
  have hsooner : ∀ earlier < 3, ¬impatientSession.EndsAt 300 earlier := by decide +kernel
  have hsettings : impatientSession.now = 0 ∧ impatientSession.settings.readyPoll = 125
      ∧ impatientSession.network.stopAt = none := by decide +kernel
  obtain ⟨hstart, hpoll, hstop⟩ := hsettings
  obtain ⟨count, after, hends, hearlier, hafter, hnow, -, hanswers⟩ :=
    (bounded_wait impatientSession).1 (.opened rfl rfl) (by decide +kernel) 300 (by decide +kernel)
  have hcount : count = 3 := by
    refine Nat.le_antisymm (Nat.le_of_not_lt fun hlate => hearlier 3 hlate hlast.1) ?_
    exact Nat.le_of_not_lt fun hearly => hsooner count hearly hends
  obtain ⟨answer, hanswer, hnotReady, -⟩ := hanswers (by simp [hstop]) (.state 2) 2 rfl (by decide)
  refine ⟨answer, after, hanswer, ?_, hnotReady.2 ?_⟩
  · rw [hnow, hcount, hstart, hpoll]
  · rw [hafter, hcount]
    exact hlast.2

end Session

end PadLink
