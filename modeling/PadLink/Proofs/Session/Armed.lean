import PadLink.Proofs.Session.Waits
import PadLink.Proofs.Session.Disguise

set_option autoImplicit false

/-! # Every controller is enabled

A controller that comes to a slot is enabled, and is not disabled by anything but a caller. So once
slots are enabled, and as long as no caller disables them, a slot with a controller is enabled
(`Armed`).

To enable the slots with a controller is a disguise (`arming`), and what is armed are the sessions that
are not changed by it. As the exchange commutes with every disguise, it leads from armed sessions to armed
ones. -/

namespace PadLink

/-- The slots with a controller are enabled. -/
def arming : Disguise where
  slot _ slot := { slot with enabled := slot.enabled || slot.connected }
  network network := network
  told _ _ := rfl
  vibration _ _ := rfl
  vibrate _ _ _ := rfl
  apply _ slot block := by
    unfold Slot.apply
    cases block.isFlagged <;> cases h : slot.connected <;>
      simp [Slot.update, Slot.connect, Slot.disconnect, h]
  vacate _ slot := by
    unfold Slot.vacate
    cases h : slot.connected <;> simp [Slot.disconnect, h]
  now _ := rfl
  inbox _ := rfl
  stopAt _ := rfl
  clock _ _ := rfl
  fill _ _ := rfl
  note _ _ _ _ := rfl
  poll _ _ _ := rfl

namespace Session

/-- Every slot with a controller is enabled. -/
def Armed (session : Session) : Prop :=
  ∀ slot, (session.bank.slot slot).connected = true → (session.bank.slot slot).enabled = true

theorem armed_iff {session : Session} : session.Armed ↔ arming.on session = session := by
  have hslot : ∀ slot : Slot, { slot with enabled := slot.enabled || slot.connected } = slot
      ↔ (slot.connected = true → slot.enabled = true) := by
    rintro ⟨connected, enabled, _, _, _, _⟩
    cases connected <;> cases enabled <;> simp
  constructor
  · intro h
    have hbank : arming.bank session.bank = session.bank :=
      Bank.ext (fun slot => (arming.slot_bank session.bank slot).trans ((hslot _).2 (h slot))) rfl
    exact congrArg (fun bank => { session with bank := bank }) hbank
  · intro h slot
    have hbank : (arming.on session).bank.slot slot = session.bank.slot slot := by rw [h]
    exact (hslot _).1 ((arming.slot_bank session.bank slot).symm.trans hbank)

theorem armed_enable (session : Session) : (session.enable true).Armed := by
  intro slot _
  rw [enable, Bank.setEnabled, Bank.slot_mapSlots]

theorem Armed.sleep {session after : Session} {ms : Nat} (h : session.Armed)
    (hsleep : session.sleep ms = some after) : after.Armed := by
  have hcommutes := arming.on_sleep session ms
  rw [armed_iff.1 h, hsleep] at hcommutes
  exact armed_iff.2 (Option.some.inj hcommutes)

theorem Armed.extendedState {session after : Session} {index : UInt32}
    {found : Except Error GamepadState} (h : session.Armed)
    (hasked : session.extendedState index = some (found, after)) : after.Armed := by
  rcases after_askSlot hasked with rfl | ⟨_, hwait⟩
  · exact h
  · exact lookForReady_induction (fun _ _ _ hsleep hbefore => hbefore.sleep hsleep) hwait h

/-- Asking for a keystroke leaves the flags alone. -/
theorem Armed.nextKeystroke {session : Session} (h : session.Armed) (selector : Selector) :
    (session.nextKeystroke selector).2.Armed := by
  have hslots : ∀ slots slot, ((Bank.firstKeystroke slots session.bank).2.slot slot).connected = true →
      ((Bank.firstKeystroke slots session.bank).2.slot slot).enabled = true := by
    intro slots slot
    obtain ⟨pad, hpad⟩ := Bank.slot_firstKeystroke slots session.bank slot
    rw [hpad]
    exact h slot
  exact nextKeystroke_induction selector h (fun slots => hslots slots) fun slots _ => hslots slots

end Session

end PadLink
