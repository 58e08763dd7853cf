import PadLink.Proofs.Session.HeldKeys

set_option autoImplicit false

/-! # Keys of a controller that is gone

A keystroke query compares a slot's gamepad with its snapshot and does not ask whether there is a
controller. Disconnecting leaves the gamepad as it is, and only the next block with a controller writes to
it. So a caller who has drained a slot believes to be held what the last such block pressed, also when
the controller is long gone (`held_iff_lastShown`): no key is left held exactly if that block pressed
none. -/

namespace PadLink

/-- The latest block of a feed that shows a controller. -/
def Feed.lastShown? (feed : Feed) : Option Block :=
  feed.findSome? fun entry => entry.filter Block.isFlagged

/-- The gamepad of a feed holds what its latest controller pressed. -/
theorem Feed.holds_pad (feed : Feed) (key : Key) :
    (Feed.pad feed).holds key = (Feed.lastShown? feed).any fun block => block.presses key := by
  unfold pad lastShown?
  cases feed.findSome? fun entry => entry.filter Block.isFlagged with
  | none => exact Gamepad.holds_default key
  | some block => exact Block.holds_gamepad block key

namespace Session

open Keystroke (isHeld)

/-- After any run of a started session, when a slot has no keystroke left, the keys that were reported
    down for it and not yet up are exactly those that its last block with a controller pressed, whether
    the controller is still there or not. So every key that went down has come up just if that block
    pressed no key. -/
theorem held_iff_lastShown {settings : Settings} {peer : SocketAddress} {network : Network}
    {steps : List Step} {answers : List Answer} {before session : Session} {index : UInt32}
    {slot : SlotIndex} (hbind : network.obstacles.bind = none)
    (hspawn : network.obstacles.spawn = none)
    (hrun : (openWith settings peer network).run steps = some (answers, before))
    (hask : before.step (.request (.keystroke (.index index)))
      = some (.keystroke (.ok none), session))
    (hslot : index.toNat = slot.val) :
    (∀ code, isHeld slot code (reported answers) = true
        ↔ ∃ block ∈ Feed.lastShown? (session.feed slot), ∃ key : Key,
          key.code = code ∧ block.presses key = true)
      ∧ ((∀ code, isHeld slot code (reported answers) = false)
        ↔ ∀ block ∈ Feed.lastShown? (session.feed slot), ∀ key, block.presses key = false) := by
  obtain ⟨hnone, rfl⟩ := nextKeystroke_eq_none hslot hask
  have hreachable : Reachable before := (Reachable.opened hbind hspawn).run hrun
  have hfeed : ({ before with bank := (before.bank.nextKeystroke slot).2 } : Session).feed slot
      = before.feed slot := rfl
  have hholds : ∀ key, (before.bank.slot slot).reported.holds key
      = (Feed.lastShown? (before.feed slot)).any fun block => block.presses key := by
    intro key
    rw [Bank.holds_of_nextKeystroke_none hnone, (hreachable.follows slot).gamepad, Feed.holds_pad]
  have htally : Bank.Tallied (reported answers ++ []) before.bank :=
    tallied_run (tallied_openWith hbind hspawn) hrun
  rw [List.append_nil] at htally
  have hheld : ∀ code, isHeld slot code (reported answers) = true
      ↔ ∃ block ∈ Feed.lastShown? (before.feed slot), ∃ key : Key,
        key.code = code ∧ block.presses key = true := by
    intro code
    rw [htally.held]
    constructor
    · rintro ⟨key, hcode, hkey⟩
      rw [hholds, Option.any_eq_true] at hkey
      obtain ⟨block, hblock, hpressed⟩ := hkey
      exact ⟨block, hblock, key, hcode, hpressed⟩
    · rintro ⟨block, hblock, key, hcode, hpressed⟩
      refine ⟨key, hcode, ?_⟩
      rw [hholds, Option.any_eq_true]
      exact ⟨block, hblock, hpressed⟩
  rw [hfeed]
  refine ⟨hheld, ?_⟩
  constructor
  · intro hclear block hblock key
    refine Bool.eq_false_iff.2 fun hpressed => ?_
    have hdown := (hheld key.code).2 ⟨block, hblock, key, rfl, hpressed⟩
    rw [hclear] at hdown
    cases hdown
  · intro hclear code
    refine Bool.eq_false_iff.2 fun hdown => ?_
    obtain ⟨block, hblock, key, -, hpressed⟩ := (hheld code).1 hdown
    rw [hclear block hblock] at hpressed
    cases hpressed

theorem step_keystroke_of_empty {session : Session} {selector : Selector}
    (h : (session.nextKeystroke selector).1.toOption = some none) :
    session.step (.request (.keystroke selector))
      = some (.keystroke (.ok none), (session.nextKeystroke selector).2) := by
  rw [step, answer]
  cases hanswer : (session.nextKeystroke selector).1 with
  | error error => rw [hanswer] at h; cases h
  | ok report => rw [hanswer] at h; cases h; rfl

/-- A run in which the server shows a controller with A pressed, a caller asks once, and then come the
    given replies. -/
def goneRun (replies : List (List UInt8)) (asked : Nat) : Option (List Answer × Session) :=
  (openWith { handshakeWaitMs := 0 } (.v4 IPv4.localhost 0)
    { inbox := [⟨0, .payload [2, 1, 1, 0, 0, 128, 128, 128, 128, 0, 0]⟩] }).run
    (.request (.keystroke (.index 0)) :: replies.map (fun bytes => .push (.payload bytes))
      ++ List.replicate asked (.request (.keystroke (.index 0))))

/-- A controller that lets go of its key before it goes away leaves none held. -/
theorem released_of_goneRun :
    ∃ answers before session, goneRun [[2, 1, 0, 0, 0, 128, 128, 128, 128, 0, 0],
          [2, 0, 0, 0, 0, 128, 128, 128, 128, 0, 0]] 1 = some (answers, before)
      ∧ before.step (.request (.keystroke (.index 0))) = some (.keystroke (.ok none), session)
      ∧ (session.bank.slot 0).connected = false
      ∧ ∀ code, isHeld 0 code (reported answers) = false := by
  have hend : (goneRun [[2, 1, 0, 0, 0, 128, 128, 128, 128, 0, 0],
      [2, 0, 0, 0, 0, 128, 128, 128, 128, 0, 0]] 1).any (fun outcome =>
        (outcome.2.nextKeystroke (.index 0)).1.toOption == some none
          && !((outcome.2.nextKeystroke (.index 0)).2.bank.slot 0).connected
          && (Feed.lastShown? ((outcome.2.nextKeystroke (.index 0)).2.feed 0)).all fun block =>
            Key.all.all fun key => !block.presses key) = true := by
    decide +kernel
  obtain ⟨⟨answers, before⟩, hrun, hbefore⟩ := (Option.any_eq_true _ _).1 hend
  simp only [Bool.and_eq_true, Bool.not_eq_true', beq_iff_eq, Option.all_eq_true,
    List.all_eq_true] at hbefore
  obtain ⟨⟨hquiet, hvacant⟩, hreleased⟩ := hbefore
  have hask := step_keystroke_of_empty hquiet
  refine ⟨answers, before, _, hrun, hask, hvacant, ?_⟩
  exact (held_iff_lastShown rfl rfl hrun hask rfl).2.2 fun block hblock key =>
    hreleased block hblock key (Key.mem_all key)

/-- A controller that goes away with its key pressed leaves it held, though the slot is drained. -/
theorem held_of_goneRun :
    ∃ answers before session, goneRun [[2, 0, 0, 0, 0, 128, 128, 128, 128, 0, 0]] 0
          = some (answers, before)
      ∧ before.step (.request (.keystroke (.index 0))) = some (.keystroke (.ok none), session)
      ∧ (session.bank.slot 0).connected = false
      ∧ isHeld 0 (Key.button .a).code (reported answers) = true := by
  have hend : (goneRun [[2, 0, 0, 0, 0, 128, 128, 128, 128, 0, 0]] 0).any (fun outcome =>
      (outcome.2.nextKeystroke (.index 0)).1.toOption == some none
        && !((outcome.2.nextKeystroke (.index 0)).2.bank.slot 0).connected
        && isHeld 0 (Key.button .a).code (reported outcome.1)) = true := by
    decide +kernel
  obtain ⟨⟨answers, before⟩, hrun, hbefore⟩ := (Option.any_eq_true _ _).1 hend
  simp only [Bool.and_eq_true, Bool.not_eq_true', beq_iff_eq] at hbefore
  obtain ⟨⟨hquiet, hvacant⟩, hpressed⟩ := hbefore
  exact ⟨answers, before, _, hrun, step_keystroke_of_empty hquiet, hvacant, hpressed⟩

end Session

end PadLink
