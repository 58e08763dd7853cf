import PadLink.Proofs.Session.Looks

set_option autoImplicit false

/-! # What a wait leaves behind

Behind a question that waited for readiness a caller finds the session as it was, only later (`Later`):
the same settings, the same end of the program, and not being closed if it was not before. A wait fails
because there is no exchange, or because the settings' limit has passed; so as long as the exchange goes
on, a question about a slot brings its state, or finds no controller, or is not answered in time
(`Reachable.extendedState_cases`). -/

namespace PadLink.Session

/-! ## Later -/

/-- Nothing but the clock has changed of what a caller relies on. -/
structure Later (session after : Session) : Prop where
  setup : after.setup = { session.setup with now := after.now }
  now : session.now ≤ after.now

theorem later_refl (session : Session) : session.Later session := ⟨rfl, Nat.le_refl _⟩

/-- What takes no time. -/
theorem later_of_setup {session after : Session} (h : after.setup = session.setup) :
    session.Later after := by
  have hnow : after.now = session.now := congrArg Setup.now h
  refine ⟨?_, Nat.le_of_eq hnow.symm⟩
  rw [hnow]
  exact h

section

variable {session after last : Session}

theorem Later.trans (h : session.Later after) (hlast : after.Later last) : session.Later last := by
  refine ⟨?_, Nat.le_trans h.now hlast.now⟩
  rw [hlast.setup, h.setup]

theorem Later.settings (h : session.Later after) : after.settings = session.settings :=
  congrArg Setup.settings h.setup

theorem Later.closing (h : session.Later after) : after.closing = session.closing :=
  congrArg Setup.closing h.setup

theorem Later.stopAt (h : session.Later after) : after.network.stopAt = session.network.stopAt :=
  congrArg Setup.stopAt h.setup

end

theorem later_advance (session : Session) (ms : Nat) : session.Later (session.advance ms) := by
  have hnow : (session.advance ms).now = session.now + ms := now_advanceTo (Nat.le_add_right _ _)
  refine ⟨?_, ?_⟩
  · rw [hnow]
    exact setup_advanceTo (Nat.le_add_right _ _)
  · rw [hnow]
    exact Nat.le_add_right _ _

/-- A caller that wakes up finds that it slept as long as it wanted, and that the program goes on. -/
theorem later_sleep {session after : Session} {ms : Nat} (h : session.sleep ms = some after) :
    session.Later after ∧ after.now = session.now + ms
      ∧ ∀ stop ∈ session.network.stopAt, after.now < stop := by
  have hlater : session.Later after := by
    rw [eq_advance_of_sleep h]
    exact later_advance session ms
  refine ⟨hlater, ?_, fun stop hstop => ?_⟩
  · rw [eq_advance_of_sleep h]
    exact now_advanceTo (Nat.le_add_right _ _)
  · unfold sleep at h
    dsimp only at h
    split at h
    · cases h
    · next hgoes =>
      rw [Option.some.inj h, hlater.stopAt, Option.mem_def.1 hstop] at hgoes
      simpa using hgoes

theorem later_lookForReady {since looks : Nat} {session after : Session}
    {outcome : Except Error Unit} (h : lookForReady since looks session = some (outcome, after)) :
    session.Later after :=
  lookForReady_induction (P := session.Later)
    (fun _ _ _ hsleep hbefore => hbefore.trans (later_sleep hsleep).1) h (later_refl session)

theorem later_extendedState {session after : Session} {index : UInt32}
    {found : Except Error GamepadState} (h : session.extendedState index = some (found, after)) :
    session.Later after := by
  rcases after_askSlot h with rfl | ⟨_, hwait⟩
  · exact later_refl _
  · exact later_lookForReady hwait

/-- Asking for a keystroke takes no time. -/
theorem setup_nextKeystroke (session : Session) (selector : Selector) :
    (session.nextKeystroke selector).2.setup = session.setup := by
  have hvibrations := fun slots => Bank.vibrations_firstKeystroke slots session.bank
  refine nextKeystroke_induction (P := fun after => after.setup = session.setup) selector rfl
    (fun slots => ?_) fun slots report => ?_
  · simp only [setup, now, hvibrations slots]
  · simp only [setup, now, note, Network.note, hvibrations slots]

/-! ## Errors -/

/-- A wait fails for want of an exchange, or because it took too long. -/
theorem error_of_lookForReady {since looks : Nat} {session after : Session} {error : Error}
    (h : lookForReady since looks session = some (.error error, after)) :
    after.check = .error error
      ∨ ∃ limit, after.settings.readyTimeout = some limit ∧ error = .notReady limit := by
  induction looks generalizing session with
  | zero => cases h
  | succ looks ih =>
    unfold lookForReady at h
    split at h
    · next hcheck =>
      obtain ⟨herror, rfl⟩ := Prod.mk.inj (Option.some.inj h)
      rw [← Except.error.inj herror]
      exact Or.inl hcheck
    · split at h
      · cases h
      · split at h
        · next limit hlimit =>
          obtain ⟨herror, rfl⟩ := Prod.mk.inj (Option.some.inj h)
          exact Or.inr ⟨limit, (Option.filter_eq_some_iff.1 hlimit).1, (Except.error.inj herror).symm⟩
        · obtain ⟨rested, -, hrest⟩ := Option.bind_eq_some_iff.1 h
          exact ih hrest

/-- As long as the exchange goes on, a slot's state is found, or there is no controller, or the bank was
    not ready in time. -/
theorem Reachable.extendedState_cases {session after : Session} (h : Reachable session)
    (hopen : session.closing = false) {index : UInt32} {slot : SlotIndex}
    (hslot : index.toNat = slot.val) {found : Except Error GamepadState}
    (hasked : session.extendedState index = some (found, after)) :
    (found = .ok (after.bank.slot slot).state ∧ (after.bank.slot slot).connected = true)
      ∨ found = .error (.notConnected index)
      ∨ ∃ limit, session.settings.readyTimeout = some limit ∧ found = .error (.notReady limit) := by
  have hlater := later_extendedState hasked
  unfold extendedState askSlot at hasked
  rw [SlotIndex.check_eq_ok.2 hslot] at hasked
  dsimp only at hasked
  split at hasked
  · cases hasked
  · next error last hwait =>
    obtain ⟨rfl, rfl⟩ := Prod.mk.inj (Option.some.inj hasked)
    rcases error_of_lookForReady hwait with hcheck | ⟨limit, hlimit, rfl⟩
    · rw [(h.lookForReady hwait).attained.check_eq_ok (hlater.closing.trans hopen)] at hcheck
      cases hcheck
    · rw [hlater.settings] at hlimit
      exact Or.inr (Or.inr ⟨limit, hlimit, rfl⟩)
  · split at hasked
    · next hconnected =>
      obtain ⟨rfl, rfl⟩ := Prod.mk.inj (Option.some.inj hasked)
      exact Or.inl ⟨rfl, hconnected⟩
    · obtain ⟨rfl, -⟩ := Prod.mk.inj (Option.some.inj hasked)
      exact Or.inr (Or.inl rfl)

/-! ## The beginning -/

theorem setup_awaitHandshake (session : Session) :
    ∃ time, session.awaitHandshake.setup = { session.setup with now := time } := by
  obtain ⟨time, hfollow⟩ := setup_follow (session.now + session.settings.handshakeWait)
    acknowledged session
  unfold awaitHandshake
  dsimp only
  split
  · exact ⟨time, hfollow⟩
  · refine ⟨max time (session.now + session.settings.handshakeWait), ?_⟩
    exact congrArg (fun setup : Setup =>
      { setup with now := max setup.now (session.now + session.settings.handshakeWait) }) hfollow

theorem stopAt_knock (settings : Settings) (peer : SocketAddress) (network : Network) :
    (knock settings peer network).stopAt = network.stopAt := by
  unfold knock
  dsimp only
  split
  · rfl
  · rfl

/-- A session that has just begun is not being closed, and has the settings that it was given. -/
theorem settings_openWith {settings : Settings} (peer : SocketAddress) {network : Network}
    (hbind : network.obstacles.bind = none) (hspawn : network.obstacles.spawn = none) :
    (openWith settings peer network).closing = false
      ∧ (openWith settings peer network).settings = settings := by
  obtain ⟨time, hsetup⟩ := setup_awaitHandshake (launch settings peer (knock settings peer network))
  rw [setup_launch] at hsetup
  rw [openWith_of_unobstructed hbind hspawn]
  exact ⟨congrArg Setup.closing hsetup, congrArg Setup.settings hsetup⟩

/-- The process ends at the same time, whether the start succeeds or not. -/
theorem stopAt_openWith (settings : Settings) (peer : SocketAddress) (network : Network) :
    (openWith settings peer network).network.stopAt = network.stopAt := by
  obtain ⟨time, hsetup⟩ := setup_awaitHandshake (launch settings peer (knock settings peer network))
  rw [setup_launch] at hsetup
  have hlaunched := (congrArg Setup.stopAt hsetup).trans (stopAt_knock settings peer network)
  unfold openWith
  split
  · rfl
  · dsimp only
    split
    · exact stopAt_knock settings peer network
    · exact hlaunched

end PadLink.Session
