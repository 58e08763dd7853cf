import PadLink.Proofs.Bank.Action

set_option autoImplicit false

/-! # A slot is determined by its history

Six fields of a slot are written by different parties under different rules. Each of them is a
function of the run so far, and the functions are given here without any state:

* connection, capabilities, gamepad and packet number follow the slot's feed (`feed`);
* the enabled flag is the latest of what callers set and what transitions of the connection set
  (`enabledBy`); a block that causes no transition has no say (`Action.switch`);
* the motors are as they were set last (`Action.motors?`);
* the snapshot of reported keys is changed by keystroke queries alone (`Action.asks`).

`slot_determined` puts them together. What an operation answers is determined as well, since it is a
function of the same fields. -/

namespace PadLink

/-! ## Enabling and transitions -/

namespace Slot

theorem enabled_apply (slot : Slot) (block : Block) :
    (slot.apply block).2.enabled
      = if block.isFlagged = slot.connected then slot.enabled else block.isFlagged := by
  unfold apply
  cases hflag : block.isFlagged <;> cases hslot : slot.connected <;>
    simp [update, connect, disconnect]

theorem enabled_vacate (slot : Slot) :
    slot.vacate.enabled = if slot.connected then false else slot.enabled := by
  unfold vacate
  split
  · rfl
  · rfl

/-- What applying a block is called, from the connection before it and the block's flag. -/
def changeOf : (before flagged : Bool) → SlotChange
  | false, true => .connected
  | true, true => .updated
  | true, false => .disconnected
  | false, false => .idle

theorem change_apply (slot : Slot) (block : Block) :
    (slot.apply block).1 = changeOf slot.connected block.isFlagged := by
  unfold apply
  cases block.isFlagged <;> cases slot.connected <;> rfl

end Slot

namespace Bank

/-! ## What the actions of a run say about one slot -/

/-- The blocks and outages that an action brings to a slot. -/
def Action.told (slot : SlotIndex) : Action → Feed
  | .applyBlock other block => if other = slot then [some block] else []
  | .disconnectAll => [none]
  | .vacate other => if other = slot then [none] else []
  | _ => []

/-- The blocks and outages that a run brings to a slot, the latest first. -/
def feed (slot : SlotIndex) (actions : List Action) : Feed := actions.flatMap (Action.told slot)

/-- What an action makes of a slot's enabled flag: callers set it, and so does an entry of the feed
    that differs from the connection before it. -/
def Action.switch (slot : SlotIndex) (earlier : List Action) : Action → Option Bool
  | .setEnabled on => some on
  | .enableOne other on => if other = slot then some on else none
  | action =>
    ((action.told slot).head?.map Feed.shows).filter (· != Feed.present (feed slot earlier))

/-- The enabled flag that a run leads to: the latest that an action made of it. -/
def enabledBy (slot : SlotIndex) : List Action → Bool
  | [] => false
  | action :: earlier => (action.switch slot earlier).getD (enabledBy slot earlier)

/-- The motor speeds that an action sets on a slot. -/
def Action.motors? (slot : SlotIndex) : Action → Option Vibration
  | .setVibration other vibration => if other = slot then some vibration else none
  | _ => none

/-- Whether an action on a bank is a keystroke query that looks at a slot. -/
def Action.asks (bank : Bank) (slot : SlotIndex) : Action → Bool
  | .keystroke slots => (asked slots bank).contains slot
  | _ => false

/-! ## What one action does to one slot -/

/-- The change of one slot under an action: one of the four things that an operation does to a slot,
    with the actions that do it, or nothing at all. -/
inductive Effect (slot : SlotIndex) (before : Slot) : Action → Slot → Prop
  | apply (block : Block) : Effect slot before (.applyBlock slot block) (before.apply block).2
  | vacate {action : Action} (h : action = .disconnectAll ∨ action = .vacate slot) :
      Effect slot before action before.vacate
  | vibrate (vibration : Vibration) :
      Effect slot before (.setVibration slot vibration) { before with vibration := vibration }
  | enable {action : Action} {on : Bool} (h : action = .setEnabled on ∨ action = .enableOne slot on) :
      Effect slot before action { before with enabled := on }
  | ask (slots : List SlotIndex) (pad : Gamepad) :
      Effect slot before (.keystroke slots) { before with reported := pad }
  | nothing {action : Action} (htold : action.told slot = [])
      (hswitch : ∀ earlier, action.switch slot earlier = none)
      (hmotors : action.motors? slot = none) : Effect slot before action before

theorem effect_modify_other {slot other : SlotIndex} {action : Action} {bank : Bank} {f : Slot → Slot}
    (h : slot ≠ other) (htold : action.told slot = [])
    (hswitch : ∀ earlier, action.switch slot earlier = none)
    (hmotors : action.motors? slot = none) :
    Effect slot (bank.slot slot) action ((bank.modify other f).slot slot) := by
  rw [slot_modify, if_neg h]
  exact .nothing htold hswitch hmotors

theorem effect_act (bank : Bank) (slot : SlotIndex) (action : Action) :
    Effect slot (bank.slot slot) action ((bank.act action).2.slot slot) := by
  cases action with
  | applyBlock other block =>
    by_cases h : slot = other
    · subst h
      simp only [act, slot_applyBlock, if_true]
      exact .apply block
    · have h' := Ne.symm h
      exact effect_modify_other h (if_neg h') (by simp [Action.switch, Action.told, h']) rfl
  | disconnectAll =>
    simp only [act, slot_disconnectAll]
    exact .vacate (Or.inl rfl)
  | vacate other =>
    by_cases h : slot = other
    · subst h
      simp only [act, slot_modify, if_true]
      exact .vacate (Or.inr rfl)
    · have h' := Ne.symm h
      exact effect_modify_other h (if_neg h') (by simp [Action.switch, Action.told, h']) rfl
  | setVibration other vibration =>
    by_cases h : slot = other
    · subst h
      simp only [act, setVibration, slot_modify, if_true]
      exact .vibrate vibration
    · exact effect_modify_other h rfl (fun _ => rfl) (if_neg (Ne.symm h))
  | setEnabled on =>
    simp only [act, setEnabled, slot_mapSlots]
    exact .enable (Or.inl rfl)
  | enableOne other on =>
    by_cases h : slot = other
    · subst h
      simp only [act, slot_modify, if_true]
      exact .enable (Or.inr rfl)
    · exact effect_modify_other h rfl (fun _ => if_neg (Ne.symm h)) rfl
  | keystroke slots =>
    obtain ⟨pad, hpad⟩ := slot_firstKeystroke slots bank slot
    simp only [act, hpad]
    exact .ask slots pad
  | vibrations => exact .nothing rfl (fun _ => rfl) rfl
  | status other => exact .nothing rfl (fun _ => rfl) rfl
  | setReady ready => exact .nothing rfl (fun _ => rfl) rfl

/-! ## Field by field -/

section

variable {slot : SlotIndex} {before after : Slot} {action : Action}

theorem Effect.follows (h : Effect slot before action after) {past : Feed}
    (hpast : before.Follows past) : after.Follows (action.told slot ++ past) := by
  cases h with
  | apply block =>
    simp only [Action.told, if_true]
    exact hpast.apply block
  | vacate haction =>
    have htold : action.told slot = [none] := by
      rcases haction with rfl | rfl
      · rfl
      · exact if_pos rfl
    rw [htold]
    exact hpast.vacate
  | vibrate vibration => exact hpast.of_told rfl
  | enable haction =>
    have htold : action.told slot = [] := by
      rcases haction with rfl | rfl
      · rfl
      · rfl
    rw [htold]
    exact hpast.of_told rfl
  | ask _ pad => exact hpast.of_told rfl
  | nothing htold =>
    rw [htold]
    exact hpast

/-- The enabled flag is what the action makes of it, or stays. -/
theorem Effect.enabled (h : Effect slot before action after) {earlier : List Action}
    (hearlier : before.connected = Feed.present (feed slot earlier)) :
    after.enabled = (action.switch slot earlier).getD before.enabled := by
  cases h with
  | apply block =>
    have hswitch : (Action.applyBlock slot block).switch slot earlier
        = if block.isFlagged = before.connected then none else some block.isFlagged := by
      simp [Action.switch, Action.told, Option.filter, Feed.shows, hearlier]
    rw [hswitch, Slot.enabled_apply]
    split <;> rfl
  | vacate haction =>
    have hswitch : action.switch slot earlier = if before.connected then some false else none := by
      rcases haction with rfl | rfl <;>
        cases hconnected : before.connected <;>
        simp [Action.switch, Action.told, Option.filter, Feed.shows, ← hearlier, hconnected]
    rw [hswitch, Slot.enabled_vacate]
    split <;> rfl
  | vibrate vibration => rfl
  | enable haction =>
    rcases haction with rfl | rfl
    · rfl
    · simp [Action.switch]
  | ask _ pad => rfl
  | nothing _ hswitch =>
    rw [hswitch earlier]
    rfl

theorem Effect.vibration (h : Effect slot before action after) :
    after.vibration = (action.motors? slot).getD before.vibration := by
  cases h with
  | apply block => exact (Slot.apply_keeps before block).2
  | vacate haction =>
    have hkeeps := (Slot.vacate_keeps before).2.2
    rcases haction with rfl | rfl <;> exact hkeeps
  | vibrate vibration => simp [Action.motors?]
  | enable haction => rcases haction with rfl | rfl <;> rfl
  | ask _ pad => rfl
  | nothing _ _ hmotors =>
    rw [hmotors]
    rfl

/-- Nothing but a keystroke query changes the snapshot of reported keys. -/
theorem Effect.reported (h : Effect slot before action after)
    (hquery : ∀ slots, action ≠ .keystroke slots) : after.reported = before.reported := by
  cases h with
  | apply block => exact (Slot.apply_keeps before block).1
  | vacate _ => exact (Slot.vacate_keeps before).2.1
  | vibrate vibration => rfl
  | enable _ => rfl
  | ask slots pad => exact absurd rfl (hquery slots)
  | nothing => rfl

end

theorem reported_act {bank : Bank} {slot : SlotIndex} {action : Action}
    (h : action.asks bank slot = false) :
    ((bank.act action).2.slot slot).reported = (bank.slot slot).reported := by
  by_cases hquery : ∃ slots, action = .keystroke slots
  · obtain ⟨slots, rfl⟩ := hquery
    have hnotMem : slot ∉ asked slots bank := by simpa [Action.asks] using h
    simp only [act, slot_firstKeystroke_of_notMem hnotMem]
  · exact (effect_act bank slot action).reported fun slots heq => hquery ⟨slots, heq⟩

/-! ## Whole runs -/

theorem feed_cons (slot : SlotIndex) (action : Action) (earlier : List Action) :
    feed slot (action :: earlier) = action.told slot ++ feed slot earlier := by
  rw [feed, feed, List.flatMap_cons]

theorem follows_after (actions : List Action) (slot : SlotIndex) :
    ((after actions).slot slot).Follows (feed slot actions) := by
  induction actions with
  | nil =>
    rw [after, slot_default]
    exact Slot.follows_default
  | cons action earlier ih =>
    rw [feed_cons]
    exact (effect_act (after earlier) slot action).follows ih

theorem enabled_after (actions : List Action) (slot : SlotIndex) :
    ((after actions).slot slot).enabled = enabledBy slot actions := by
  induction actions with
  | nil =>
    rw [after, slot_default]
    rfl
  | cons action earlier ih =>
    have hconnected := (follows_after earlier slot).connected
    rw [enabledBy, ← ih]
    exact (effect_act (after earlier) slot action).enabled hconnected

theorem vibration_after (actions : List Action) (slot : SlotIndex) :
    ((after actions).slot slot).vibration
      = (actions.findSome? (Action.motors? slot)).getD {} := by
  induction actions with
  | nil =>
    rw [after, slot_default]
    rfl
  | cons action earlier ih =>
    have hstep := (effect_act (after earlier) slot action).vibration
    rw [ih] at hstep
    rw [List.findSome?_cons]
    cases hmotors : action.motors? slot with
    | some vibration =>
      rw [hmotors] at hstep
      exact hstep
    | none =>
      rw [hmotors] at hstep
      exact hstep

/-- After every run each field of a slot is a function of the run, and so are the answers that the
    bank gives to the next block and to the next outage. -/
theorem slot_determined (actions : List Action) (slot : SlotIndex) :
    let now := (after actions).slot slot
    let history := feed slot actions
    (now.connected = true ↔ ∃ block, history.head? = some (some block) ∧ block.get 1 ≠ 0)
      ∧ now.capabilities = (if now.connected then .remote else {})
      ∧ now.state.gamepad = Feed.pad history
      ∧ now.state.packetNumber.toNat = Feed.streak history % UInt32.size
      ∧ now.enabled = enabledBy slot actions
      ∧ now.vibration = (actions.findSome? (Action.motors? slot)).getD {}
      ∧ (∀ action : Action, action.asks (after actions) slot = false →
          (((after actions).act action).2.slot slot).reported = now.reported)
      ∧ (∀ block, ((after actions).applyBlock slot block).1
          = Slot.changeOf (Feed.present history) block.isFlagged)
      ∧ (after actions).disconnectAll.1
          = SlotIndex.all.countP fun index => Feed.present (feed index actions) := by
  intro now history
  have hfollows : now.Follows history := follows_after actions slot
  refine ⟨?_, ?_, hfollows.gamepad, ?_, enabled_after actions slot, vibration_after actions slot,
    fun action hasks => reported_act hasks, ?_, ?_⟩
  · rw [hfollows.connected]
    constructor
    · intro hpresent
      obtain ⟨block, rest, hhistory, hflag⟩ := Feed.exists_block_of_present hpresent
      exact ⟨block, by rw [hhistory, List.head?_cons], by simpa [Block.isFlagged, Vector.get] using hflag⟩
    · rintro ⟨block, hhead, hflag⟩
      simpa [Feed.present, hhead, Feed.shows, Block.isFlagged, Vector.get] using hflag
  · rw [hfollows.capabilities, hfollows.connected]
  · rw [hfollows.packetNumber, UInt32.toNat_ofNat']
  · intro block
    rw [← hfollows.connected]
    exact Slot.change_apply now block
  · have hconnected : ∀ index, ((after actions).slot index).connected
        = Feed.present (feed index actions) := fun index => (follows_after actions index).connected
    simp only [disconnectAll_eq, hconnected]

end Bank

end PadLink
