import PadLink.Slot
import PadLink.Proofs.Keystroke.Edges

set_option autoImplicit false

/-! # Draining the detector

A caller that asks again and again, while the gamepad stays as it is, hears of all differences one by
one. `Gamepad.pending` lists them beforehand, and the detector walks down this list: each detection gives
out its head (`fst_detect`) and leaves a snapshot for which the rest is pending (`pending_detect`). So
the call with a given number answers with the difference at that place of the list, and with nothing
behind its end (`drain_exact`).

The list has three parts, buttons, triggers and sticks, and the detector looks at a part only when the
ones before are empty. Writing the bit or the value of the first difference removes this difference from
its part and touches no other part. A stick that went from one direction to another has two entries, and
putting it back to the middle removes the first of them. -/

namespace PadLink

/-- Where the predicate is withdrawn from the first match alone, the other matches remain. -/
theorem filter_eq_tail_of_find? {α : Type} [DecidableEq α] {items : List α} {p q : α → Bool} {a : α}
    (hnodup : items.Nodup) (hfind : items.find? p = some a)
    (hq : ∀ x, q x = if x = a then false else p x) : items.filter q = (items.filter p).tail := by
  obtain ⟨ha, before, behind, rfl, hbefore⟩ := List.find?_eq_some_iff_append.1 hfind
  have hnone : before.filter p = [] := List.filter_eq_nil_iff.2 fun x hx => by simpa using hbefore x hx
  have hgone : before.filter q = [] := by
    refine List.filter_eq_nil_iff.2 fun x hx => ?_
    have hx : p x = false := by simpa using hbefore x hx
    simp [hq, hx]
  have hrest : behind.filter q = behind.filter p := by
    refine List.filter_congr fun x hx => ?_
    have hne : x ≠ a := by
      rintro rfl
      exact (List.nodup_cons.1 (List.nodup_append.1 hnodup).2.1).1 hx
    rw [hq, if_neg hne]
  simp [hnone, hgone, hrest, hq, ha]

namespace Gamepad

/-! ## The parts of the list -/

/-- The buttons whose state differs from the snapshot's, as transitions. -/
def buttonsPending (current snapshot : Gamepad) : List Transition :=
  (Button.all.filter fun btn => current.isDown btn != snapshot.isDown btn).map fun btn =>
    ⟨.button btn, .towards (current.isDown btn)⟩

/-- The triggers whose pull differs from the snapshot's, as transitions. -/
def triggersPending (current snapshot : Gamepad) : List Transition :=
  (Side.all.filter fun side => current.pulls side != snapshot.pulls side).map fun side =>
    ⟨.trigger side, .towards (current.pulls side)⟩

theorem pending_eq (current snapshot : Gamepad) : current.pending snapshot
    = current.buttonsPending snapshot ++ current.triggersPending snapshot
      ++ (current.stickPending snapshot .left ++ current.stickPending snapshot .right) := by
  simp [pending, buttonsPending, triggersPending, Side.all]

section

variable (current snapshot : Gamepad) {other : Gamepad}

/-! A part depends on its own part of the snapshot. -/

theorem buttonsPending_congr (h : ∀ btn, other.isDown btn = snapshot.isDown btn) :
    current.buttonsPending other = current.buttonsPending snapshot := by
  simp only [buttonsPending, h]

theorem triggersPending_congr (h : ∀ side, other.pulls side = snapshot.pulls side) :
    current.triggersPending other = current.triggersPending snapshot := by
  simp only [triggersPending, h]

theorem stickPending_congr {side : Side} (h : other.stick side = snapshot.stick side) :
    current.stickPending other side = current.stickPending snapshot side := by
  simp only [stickPending, h]

end

/-! ## One detection -/

section

variable (current snapshot : Gamepad)

theorem fst_buttonChange : (current.buttonChange snapshot).map Prod.fst
    = (current.buttonsPending snapshot).head? := by
  simp only [buttonChange, buttonsPending, List.head?_map, List.head?_filter, Option.map_map]
  rfl

theorem fst_triggerChange : (current.triggerChange snapshot).map Prod.fst
    = (current.triggersPending snapshot).head? := by
  simp only [triggerChange, triggersPending, List.head?_map, List.head?_filter, Option.map_map]
  rfl

theorem fst_stickChange (side : Side) : (current.stickChange snapshot side).1
    = (current.stickPending snapshot side).head? := by
  unfold stickChange stickPending
  dsimp only
  split
  · rfl
  · split
    · next direction hseen => simp [hseen]
    · next hseen => cases hshown : (current.stick side).direction <;> simp [hseen]

end

section

variable {current snapshot after : Gamepad} {t : Transition}

/-- Writing the bit of the first button that differs takes this button off the list. -/
theorem pending_of_buttonChange (h : current.buttonChange snapshot = some (t, after)) :
    current.pending after = (current.pending snapshot).tail := by
  obtain ⟨btn, hfind, heq⟩ := Option.map_eq_some_iff.1 h
  obtain ⟨-, rfl⟩ := Prod.mk.inj heq
  have hbuttons : current.buttonsPending (snapshot.setButton btn (current.isDown btn))
      = (current.buttonsPending snapshot).tail := by
    unfold buttonsPending
    rw [← List.map_tail]
    refine congrArg (List.map _) (filter_eq_tail_of_find? Button.nodup_all hfind fun other => ?_)
    rw [isDown_setButton]
    split
    · next hself => simp [hself]
    · rfl
  have hfirst : current.buttonsPending snapshot ≠ [] := by
    intro hnone
    have hhead := current.fst_buttonChange snapshot
    rw [h, hnone] at hhead
    cases hhead
  rw [pending_eq, pending_eq, hbuttons, List.append_assoc, List.append_assoc,
    List.tail_append_of_ne_nil hfirst,
    triggersPending_congr current snapshot fun side => by simp [pulls],
    stickPending_congr _ _ (snapshot.stick_setButton ..),
    stickPending_congr _ _ (snapshot.stick_setButton ..)]

/-- Taking the value of the first trigger that differs over takes this trigger off the list. -/
theorem pending_of_triggerChange (hbuttons : current.buttonsPending snapshot = [])
    (h : current.triggerChange snapshot = some (t, after)) :
    current.pending after = (current.pending snapshot).tail := by
  obtain ⟨side, hfind, heq⟩ := Option.map_eq_some_iff.1 h
  obtain ⟨-, rfl⟩ := Prod.mk.inj heq
  have htriggers : current.triggersPending (snapshot.setTrigger side (current.trigger side))
      = (current.triggersPending snapshot).tail := by
    unfold triggersPending
    rw [← List.map_tail]
    refine congrArg (List.map _) (filter_eq_tail_of_find? (by decide) hfind fun other => ?_)
    simp only [pulls, trigger_setTrigger]
    split
    · next hself => simp [hself]
    · rfl
  have hfirst : current.triggersPending snapshot ≠ [] := by
    intro hnone
    have hhead := current.fst_triggerChange snapshot
    rw [h, hnone] at hhead
    cases hhead
  rw [pending_eq, pending_eq, htriggers, hbuttons, List.nil_append,
    List.tail_append_of_ne_nil hfirst,
    buttonsPending_congr current snapshot fun btn => by simp [isDown], hbuttons,
    stickPending_congr _ _ (snapshot.stick_setTrigger ..),
    stickPending_congr _ _ (snapshot.stick_setTrigger ..)]
  rfl

end

/-- What is pending for a stick after a look at it: everything but the first. -/
theorem stickPending_stickChange (current snapshot : Gamepad) (side : Side) :
    current.stickPending (current.stickChange snapshot side).2 side
      = (current.stickPending snapshot side).tail := by
  unfold stickChange stickPending
  dsimp only
  split
  · simp [stick_setStick]
  · next hmoved =>
    split
    -- The stick is parked, so it still has to enter the direction that it shows.
    · next direction hseen =>
      simp only [stick_setStick, if_true, Stick.direction_center, hseen]
      cases hshown : (current.stick side).direction <;> simp
    · next hseen =>
      rw [hseen] at hmoved ⊢
      cases hshown : (current.stick side).direction with
      | none => exact absurd hshown hmoved
      | some direction => simp [stick_setStick, hshown]

/-- A look at a stick writes this stick alone. -/
theorem exists_setStick_of_stickChange (current snapshot : Gamepad) (side : Side) :
    ∃ value, (current.stickChange snapshot side).2 = snapshot.setStick side value := by
  unfold stickChange
  dsimp only
  split
  · exact ⟨_, rfl⟩
  · split
    · exact ⟨_, rfl⟩
    · exact ⟨_, rfl⟩

section

variable (current snapshot : Gamepad)

/-- A look at both sticks writes nothing but sticks. -/
theorem exists_setStick_of_sticksChange : ∃ left right, (current.sticksChange snapshot).2
    = (snapshot.setStick .left left).setStick .right right := by
  obtain ⟨left, hleft⟩ := current.exists_setStick_of_stickChange snapshot .left
  unfold sticksChange
  split
  · next transition after hchange =>
    rw [hchange] at hleft
    refine ⟨left, after.stick .right, ?_⟩
    dsimp only at hleft ⊢
    rw [← hleft, setStick_stick]
  · next after hchange =>
    rw [hchange] at hleft
    obtain ⟨right, hright⟩ := current.exists_setStick_of_stickChange after .right
    dsimp only at hleft
    exact ⟨left, right, by rw [hright, hleft]⟩

theorem fst_sticksChange : (current.sticksChange snapshot).1
    = (current.stickPending snapshot .left ++ current.stickPending snapshot .right).head? := by
  have hleft := current.fst_stickChange snapshot .left
  obtain ⟨value, hvalue⟩ := current.exists_setStick_of_stickChange snapshot .left
  unfold sticksChange
  split
  · next transition after hchange =>
    rw [hchange] at hleft
    rw [List.head?_append, ← hleft]
    rfl
  · next after hchange =>
    rw [hchange] at hleft hvalue
    have hright : after.stick .right = snapshot.stick .right := by
      dsimp only at hvalue
      rw [hvalue, stick_setStick, if_neg (by decide)]
    rw [List.head?_append, ← hleft, Option.none_or, fst_stickChange, stickPending_congr _ _ hright]

/-- Of the sticks' transitions the first is taken off, and the left stick's come first. -/
theorem stickPending_sticksChange :
    current.stickPending (current.sticksChange snapshot).2 .left
        ++ current.stickPending (current.sticksChange snapshot).2 .right
      = (current.stickPending snapshot .left ++ current.stickPending snapshot .right).tail := by
  obtain ⟨value, hvalue⟩ := current.exists_setStick_of_stickChange snapshot .left
  have hleft := current.fst_stickChange snapshot .left
  have hrest := current.stickPending_stickChange snapshot .left
  have hright : (current.stickChange snapshot .left).2.stick .right = snapshot.stick .right := by
    rw [hvalue, stick_setStick, if_neg (by decide)]
  unfold sticksChange
  split
  · next transition after hchange =>
    rw [hchange] at hleft hrest hright
    have hfirst : current.stickPending snapshot .left ≠ [] := by
      intro hnone
      rw [hnone] at hleft
      cases hleft
    rw [hrest, stickPending_congr _ _ hright, List.tail_append_of_ne_nil hfirst]
  -- The left stick has nothing to report, and a look at the right one leaves it so.
  · next after hchange =>
    rw [hchange] at hleft hrest hright
    have hnone : current.stickPending snapshot .left = [] := List.head?_eq_none_iff.1 hleft.symm
    obtain ⟨copied, hcopied⟩ := current.exists_setStick_of_stickChange after .right
    have hstays : (current.stickChange after .right).2.stick .left = after.stick .left := by
      rw [hcopied, stick_setStick, if_neg (by decide)]
    rw [stickPending_congr _ _ hstays, hrest, hnone, stickPending_stickChange, stickPending_congr _ _ hright]
    rfl

theorem pending_sticksChange (hbuttons : current.buttonsPending snapshot = [])
    (htriggers : current.triggersPending snapshot = []) :
    current.pending (current.sticksChange snapshot).2 = (current.pending snapshot).tail := by
  obtain ⟨left, right, hafter⟩ := current.exists_setStick_of_sticksChange snapshot
  rw [pending_eq, stickPending_sticksChange, pending_eq,
    buttonsPending_congr current snapshot fun btn => by simp [hafter, isDown],
    triggersPending_congr current snapshot fun side => by simp [hafter, pulls],
    hbuttons, htriggers]
  rfl

/-- A detection gives out the first of the pending transitions, if there is one. -/
theorem fst_detect : (current.detect snapshot).1 = (current.pending snapshot).head? := by
  rw [pending_eq, List.head?_append, List.head?_append, ← fst_buttonChange, ← fst_triggerChange,
    ← fst_sticksChange]
  unfold detect
  cases current.buttonChange snapshot with
  | some found => rfl
  | none => cases current.triggerChange snapshot <;> rfl

/-- Behind a detection the others are pending. -/
theorem pending_detect :
    current.pending (current.detect snapshot).2 = (current.pending snapshot).tail := by
  have hbuttons := current.fst_buttonChange snapshot
  have htriggers := current.fst_triggerChange snapshot
  unfold detect
  cases hbutton : current.buttonChange snapshot with
  | some found => exact pending_of_buttonChange hbutton
  | none =>
    rw [hbutton] at hbuttons
    have hnone := List.head?_eq_none_iff.1 hbuttons.symm
    cases htrigger : current.triggerChange snapshot with
    | some found => exact pending_of_triggerChange hnone htrigger
    | none =>
      rw [htrigger] at htriggers
      exact current.pending_sticksChange snapshot hnone (List.head?_eq_none_iff.1 htriggers.symm)

/-- There are never more differences than this: fourteen buttons, two triggers, and two sticks that
    leave one direction for another. -/
theorem length_pending_le : (current.pending snapshot).length ≤ 20 := by
  have hstick : ∀ side, (current.stickPending snapshot side).length ≤ 2 := by
    intro side
    unfold stickPending
    dsimp only
    split
    · simp
    · cases (snapshot.stick side).direction <;> cases (current.stick side).direction <;> simp
  have hbuttons : (current.buttonsPending snapshot).length ≤ 14 := by
    rw [buttonsPending, List.length_map]
    exact List.length_filter_le _ Button.all
  have htriggers : (current.triggersPending snapshot).length ≤ 2 := by
    rw [triggersPending, List.length_map]
    exact List.length_filter_le _ Side.all
  have hleft := hstick .left
  have hright := hstick .right
  rw [pending_eq]
  simp only [List.length_append]
  omega

/-- The bits that belong to no button are passed over. -/
theorem getLsbD_detect {i : Nat} (hi : ∀ btn : Button, i ≠ btn.bit) :
    (current.detect snapshot).2.buttons.toBitVec.getLsbD i
      = snapshot.buttons.toBitVec.getLsbD i := by
  unfold detect
  split
  · next transition after hfirst =>
    rcases Option.or_eq_some_iff.1 hfirst with hbutton | ⟨-, htrigger⟩
    · obtain ⟨btn, -, heq⟩ := Option.map_eq_some_iff.1 hbutton
      obtain ⟨-, rfl⟩ := Prod.mk.inj heq
      rw [getLsbD_setButton, if_neg (hi btn)]
    · obtain ⟨side, -, heq⟩ := Option.map_eq_some_iff.1 htrigger
      obtain ⟨-, rfl⟩ := Prod.mk.inj heq
      rw [buttons_setTrigger]
  · obtain ⟨left, right, hafter⟩ := current.exists_setStick_of_sticksChange snapshot
    rw [hafter, buttons_setStick, buttons_setStick]

end

/-! ## Many detections -/

/-- The snapshot shows what the gamepad shows, as far as anything can be reported. -/
structure Settles (current snapshot : Gamepad) : Prop where
  buttons : ∀ btn, snapshot.isDown btn = current.isDown btn
  triggers : ∀ side, snapshot.pulls side = current.pulls side
  sticks : ∀ side, snapshot.stick side = current.stick side

/-- A detection that finds nothing takes over the raw axes of the sticks, and then nothing differs. -/
theorem settles_of_detect_none {current snapshot after : Gamepad}
    (h : current.detect snapshot = (none, after)) : current.Settles after := by
  unfold detect at h
  split at h
  · cases h
  · next hfirst =>
    obtain ⟨hbuttons, htriggers⟩ := Option.or_eq_none_iff.1 hfirst
    obtain ⟨-, rfl⟩ := sticksChange_none h
    refine ⟨fun btn => ?_, fun side => ?_, fun side => ?_⟩
    · rw [isDown_of_buttonChange hbuttons btn]
      simp [isDown]
    · rw [pulls_of_triggerChange htriggers side]
      simp [pulls]
    · cases side <;> simp [stick_setStick]

/-- A snapshot from which nothing differs stays as it is. -/
theorem Settles.detect_eq {current snapshot : Gamepad} (h : current.Settles snapshot) :
    current.detect snapshot = (none, snapshot) := by
  have hpending : current.pending snapshot = [] := by
    rw [pending_eq, buttonsPending_congr current current h.buttons,
      triggersPending_congr current current h.triggers,
      stickPending_congr current current (h.sticks .left),
      stickPending_congr current current (h.sticks .right), ← pending_eq, pending_self]
  have hfound : (current.detect snapshot).1 = none := by
    rw [fst_detect, hpending, List.head?_nil]
  have hstick : ∀ side, snapshot.setStick side (current.stick side) = snapshot := by
    intro side
    rw [← h.sticks side, setStick_stick]
  refine Prod.ext hfound ?_
  unfold detect at hfound ⊢
  split at hfound
  · cases hfound
  · next hfirst =>
    obtain ⟨-, hafter⟩ := sticksChange_none (Prod.ext hfound rfl)
    rw [hstick, hstick] at hafter
    simpa only [hfirst] using hafter

/-- The next keystroke, reported under a user index, and the snapshot behind it. -/
def nextReport (current : Gamepad) (userIndex : UInt8) (snapshot : Gamepad) :
    Option Keystroke × Gamepad :=
  ((current.detect snapshot).1.map fun transition => transition.report userIndex,
    (current.detect snapshot).2)

/-- A query of a slot is such a call, and the slot remembers the snapshot. -/
theorem nextKeystroke_eq_nextReport (slot : Slot) (index : SlotIndex) :
    slot.nextKeystroke index
      = ((slot.state.gamepad.nextReport (UInt8.ofNat index.val) slot.reported).1,
        { slot with
          reported := (slot.state.gamepad.nextReport (UInt8.ofNat index.val) slot.reported).2 }) := rfl

/-- The snapshot after so many detections. -/
def snapshotAfter (current snapshot : Gamepad) : Nat → Gamepad
  | 0 => snapshot
  | n + 1 => (current.detect (current.snapshotAfter snapshot n)).2

section

variable (current snapshot : Gamepad)

/-- Each detection takes one transition off the list. -/
theorem pending_snapshotAfter (n : Nat) :
    current.pending (current.snapshotAfter snapshot n) = (current.pending snapshot).drop n := by
  induction n with
  | zero => rfl
  | succ n ih => rw [snapshotAfter, pending_detect, ih, List.tail_drop]

theorem getLsbD_snapshotAfter {i : Nat} (hi : ∀ btn : Button, i ≠ btn.bit) (n : Nat) :
    (current.snapshotAfter snapshot n).buttons.toBitVec.getLsbD i
      = snapshot.buttons.toBitVec.getLsbD i := by
  induction n with
  | zero => rfl
  | succ n ih => rw [snapshotAfter, getLsbD_detect _ _ hi, ih]

/-- Once the list is used up, the next detection settles the snapshot. -/
theorem settles_snapshotAfter {n : Nat} (h : (current.pending snapshot).length < n) :
    current.Settles (current.snapshotAfter snapshot n) := by
  obtain ⟨n, rfl⟩ := Nat.exists_eq_add_one_of_ne_zero (Nat.ne_zero_of_lt h)
  refine settles_of_detect_none (Prod.ext ?_ rfl)
  rw [fst_detect, pending_snapshotAfter, List.drop_of_length_le (Nat.le_of_lt_succ h), List.head?_nil]

end

/-- While the gamepad stays as it is, the calls report the pending transitions in their order and then
    nothing. There are twenty at most; a call that reports something takes one off what is pending, and
    a call reports nothing just when nothing is pending. From the first such call on the snapshot shows
    the buttons, the pull of the triggers and the raw axes of the gamepad, the bits of no button are
    those of the old snapshot, and a further call reports nothing and changes nothing. -/
theorem drain_exact (current snapshot : Gamepad) (userIndex : UInt8) :
    (∀ n, (current.nextReport userIndex (current.snapshotAfter snapshot n)).1
        = ((current.pending snapshot)[n]?).map fun transition => transition.report userIndex)
      ∧ (current.pending snapshot).length ≤ 20
      ∧ (∀ n, current.snapshotAfter snapshot (n + 1)
        = (current.nextReport userIndex (current.snapshotAfter snapshot n)).2)
      ∧ (∀ pad report, (current.nextReport userIndex pad).1 = some report →
        (current.pending (current.nextReport userIndex pad).2).length + 1
          = (current.pending pad).length)
      ∧ (∀ pad, (current.nextReport userIndex pad).1 = none ↔ current.pending pad = [])
      ∧ ∀ n, (current.pending snapshot).length < n →
        current.Settles (current.snapshotAfter snapshot n)
          ∧ (∀ i, (∀ btn : Button, i ≠ btn.bit) →
            (current.snapshotAfter snapshot n).buttons.toBitVec.getLsbD i
              = snapshot.buttons.toBitVec.getLsbD i)
          ∧ current.nextReport userIndex (current.snapshotAfter snapshot n)
            = (none, current.snapshotAfter snapshot n) := by
  have hnone : ∀ pad, (current.nextReport userIndex pad).1 = none ↔ current.pending pad = [] := by
    intro pad
    rw [nextReport, Option.map_eq_none_iff, fst_detect, List.head?_eq_none_iff]
  refine ⟨fun n => ?_, current.length_pending_le snapshot, fun _ => rfl, ?_, hnone, fun n hn => ?_⟩
  · rw [nextReport, fst_detect, pending_snapshotAfter, List.head?_drop]
  · intro pad report hreport
    have hsome : current.pending pad ≠ [] := fun hempty => by
      rw [(hnone pad).2 hempty] at hreport
      cases hreport
    rw [nextReport, pending_detect, List.length_tail]
    exact Nat.sub_add_cancel (List.length_pos_iff.2 hsome)
  · have hsettles := current.settles_snapshotAfter snapshot hn
    refine ⟨hsettles, fun i hi => current.getLsbD_snapshotAfter snapshot hi n, ?_⟩
    rw [nextReport, hsettles.detect_eq]
    rfl

/-- A stick that turns from up to right while a button and a trigger change takes two calls, and comes
    last. -/
example : ({ buttons := 0x1000, rightTrigger := 31, leftStick := { x := 20001 } } : Gamepad).pending
      { buttons := 0x0400, leftStick := { y := 32767 } }
    = [⟨.button .a, .down⟩, ⟨.trigger .right, .down⟩, ⟨.stick .left .up, .up⟩,
      ⟨.stick .left .right, .down⟩] := by decide

end Gamepad

end PadLink
