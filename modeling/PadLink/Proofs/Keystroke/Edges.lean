import PadLink.Keystroke.Detector

set_option autoImplicit false

/-! # What one detection does to the held keys

The detector works on raw values: it sets and clears bits, takes over triggers, parks a stick in the
middle and copies sticks silently. Seen through the keys that the snapshot holds, all this is one of
two things. Either a transition comes out, and then its key was in the other state before and is the
only one that changes (`Reported`, `reported_of_detect`); or nothing comes out, and then the snapshot
holds the keys that it held before, which are the keys of the current gamepad
(`holds_of_detect_none`). Everything about runs of detections rests on these two facts. -/

namespace PadLink.Gamepad

/-! ## The keys held after one write -/

theorem holds_setButton (pad : Gamepad) (btn : Button) (down : Bool) (key : Key) :
    (pad.setButton btn down).holds key = if key = .button btn then down else pad.holds key := by
  cases key with
  | button other => simp only [holds, isDown_setButton, Key.button.injEq]
  | trigger side => simp [holds, pulls]
  | stick side direction => simp [holds]

theorem holds_setTrigger (pad : Gamepad) (side : Side) (value : UInt8) (key : Key) :
    (pad.setTrigger side value).holds key
      = if key = .trigger side then decide (triggerThreshold < value) else pad.holds key := by
  cases key with
  | button btn => simp [holds, isDown]
  | trigger other =>
    simp only [holds, pulls, trigger_setTrigger, Key.trigger.injEq]
    split <;> rfl
  | stick other direction => simp [holds]

theorem holds_setStick_same {pad : Gamepad} {side : Side} {value : Stick}
    (h : (pad.stick side).direction = value.direction) (key : Key) :
    (pad.setStick side value).holds key = pad.holds key := by
  cases key with
  | button btn => simp [holds, isDown]
  | trigger other => simp [holds, pulls]
  | stick other direction =>
    simp only [holds, stick_setStick]
    by_cases hside : other = side
    · rw [if_pos hside, hside, h]
    · rw [if_neg hside]

/-- A stick that is put back to the middle lets go of the one key that it held. -/
theorem holds_setStick_leave {pad : Gamepad} {side : Side} {d : Direction}
    (h : (pad.stick side).direction = some d) (key : Key) :
    (pad.setStick side {}).holds key = if key = .stick side d then false else pad.holds key := by
  cases key with
  | button btn => simp [holds, isDown]
  | trigger other => simp [holds, pulls]
  | stick other direction =>
    simp only [holds, stick_setStick, Key.stick.injEq]
    by_cases hside : other = side
    · subst hside
      rw [if_pos rfl, Stick.direction_center, h]
      by_cases hd : direction = d
      · simp [hd]
      · simp [hd, Ne.symm hd]
    · simp [hside]

theorem holds_setStick_enter {pad : Gamepad} {side : Side} {value : Stick} {d : Direction}
    (h : (pad.stick side).direction = none) (hvalue : value.direction = some d) (key : Key) :
    (pad.setStick side value).holds key = if key = .stick side d then true else pad.holds key := by
  cases key with
  | button btn => simp [holds, isDown]
  | trigger other => simp [holds, pulls]
  | stick other direction =>
    simp only [holds, stick_setStick, Key.stick.injEq]
    by_cases hside : other = side
    · subst hside
      rw [if_pos rfl, hvalue, h]
      by_cases hd : direction = d
      · simp [hd]
      · simp [hd, Ne.symm hd]
    · simp [hside]

/-! ## One detection -/

/-- What a reported transition does to the snapshot: its key was in the other state before, and no
    other key changes. -/
structure Reported (before : Gamepad) (transition : Transition) (after : Gamepad) : Prop where
  possible : before.holds transition.key = (transition.action == .up)
  holds : ∀ key, after.holds key
    = if key = transition.key then transition.action == .down else before.holds key

theorem towards_eq_up {shown seen : Bool} (h : shown ≠ seen) :
    seen = (KeyAction.towards shown == .up) := by
  cases shown <;> cases seen <;> simp_all [KeyAction.towards]

theorem towards_eq_down (shown : Bool) : (KeyAction.towards shown == .down) = shown := by
  cases shown <;> rfl

theorem reported_of_buttonChange {current snapshot after : Gamepad} {t : Transition}
    (h : current.buttonChange snapshot = some (t, after)) : snapshot.Reported t after := by
  obtain ⟨btn, hfind, heq⟩ := Option.map_eq_some_iff.1 h
  obtain ⟨rfl, rfl⟩ := Prod.mk.inj heq
  have hdiffers : current.isDown btn ≠ snapshot.isDown btn := by
    simpa using List.find?_some hfind
  refine ⟨towards_eq_up hdiffers, ?_⟩
  intro key
  rw [towards_eq_down]
  exact holds_setButton snapshot btn _ key

theorem reported_of_triggerChange {current snapshot after : Gamepad} {t : Transition}
    (h : current.triggerChange snapshot = some (t, after)) : snapshot.Reported t after := by
  obtain ⟨side, hfind, heq⟩ := Option.map_eq_some_iff.1 h
  obtain ⟨rfl, rfl⟩ := Prod.mk.inj heq
  have hdiffers : current.pulls side ≠ snapshot.pulls side := by
    simpa using List.find?_some hfind
  refine ⟨towards_eq_up hdiffers, ?_⟩
  intro key
  rw [towards_eq_down]
  exact holds_setTrigger snapshot side _ key

/-- A stick that moved between directions lets go of the old one first. -/
theorem reported_of_stickChange {current snapshot after : Gamepad} {side : Side} {t : Transition}
    (h : current.stickChange snapshot side = (some t, after)) : snapshot.Reported t after := by
  unfold stickChange at h
  dsimp only at h
  split at h
  · simp at h
  · split at h
    · next d hseen =>
      simp only [Prod.mk.injEq, Option.some.injEq] at h
      obtain ⟨rfl, rfl⟩ := h
      refine ⟨?_, fun key => holds_setStick_leave hseen key⟩
      simp [holds, hseen]
    · next hseen =>
      simp only [Prod.mk.injEq, Option.map_eq_some_iff] at h
      obtain ⟨⟨d, hshown, rfl⟩, rfl⟩ := h
      refine ⟨?_, fun key => holds_setStick_enter hseen hshown key⟩
      simp [holds, hseen]

theorem stickChange_none {current snapshot after : Gamepad} {side : Side}
    (h : current.stickChange snapshot side = (none, after)) :
    (snapshot.stick side).direction = (current.stick side).direction
      ∧ after = snapshot.setStick side (current.stick side) := by
  unfold stickChange at h
  dsimp only at h
  split at h
  · next heq => exact ⟨heq.symm, (Prod.mk.inj h).2.symm⟩
  · next hne =>
    split at h
    · simp at h
    · next hseen =>
      simp only [Prod.mk.injEq, Option.map_eq_none_iff] at h
      exact absurd (h.1.trans hseen.symm) hne

/-- The right stick is looked at behind the left one's silent copy, which changes no key. -/
theorem reported_of_sticksChange {current snapshot after : Gamepad} {t : Transition}
    (h : current.sticksChange snapshot = (some t, after)) : snapshot.Reported t after := by
  unfold sticksChange at h
  split at h
  · next transition copied hleft =>
    obtain ⟨htransition, rfl⟩ := Prod.mk.inj h
    obtain rfl := Option.some.inj htransition
    exact reported_of_stickChange hleft
  · next copied hleft =>
    obtain ⟨hsame, rfl⟩ := stickChange_none hleft
    obtain ⟨hpossible, hholds⟩ := reported_of_stickChange h
    have hcopied := holds_setStick_same hsame
    refine ⟨(hcopied _).symm.trans hpossible, ?_⟩
    intro key
    rw [hholds, hcopied]

/-- A detection that finds something changes the key of the transition and no other. -/
theorem reported_of_detect {current snapshot after : Gamepad} {t : Transition}
    (h : current.detect snapshot = (some t, after)) : snapshot.Reported t after := by
  unfold detect at h
  split at h
  · next transition pad hfirst =>
    obtain ⟨htransition, rfl⟩ := Prod.mk.inj h
    obtain rfl := Option.some.inj htransition
    rcases Option.or_eq_some_iff.1 hfirst with hbutton | ⟨_, htrigger⟩
    · exact reported_of_buttonChange hbutton
    · exact reported_of_triggerChange htrigger
  · exact reported_of_sticksChange h

theorem isDown_of_buttonChange {current snapshot : Gamepad}
    (h : current.buttonChange snapshot = none) (btn : Button) :
    current.isDown btn = snapshot.isDown btn := by
  have hall := List.find?_eq_none.1 (Option.map_eq_none_iff.1 h) btn btn.mem_all
  simpa using hall

theorem pulls_of_triggerChange {current snapshot : Gamepad}
    (h : current.triggerChange snapshot = none) (side : Side) :
    current.pulls side = snapshot.pulls side := by
  have hmem : side ∈ Side.all := by cases side <;> decide
  have hall := List.find?_eq_none.1 (Option.map_eq_none_iff.1 h) side hmem
  simpa using hall

/-- When neither stick reports anything, both stand in the snapshot's directions, and both are
    copied. -/
theorem sticksChange_none {current snapshot after : Gamepad}
    (h : current.sticksChange snapshot = (none, after)) :
    (∀ side, (snapshot.stick side).direction = (current.stick side).direction)
      ∧ after = (snapshot.setStick .left (current.stick .left)).setStick .right
          (current.stick .right) := by
  unfold sticksChange at h
  split at h
  · simp at h
  · next copied hleft =>
    obtain ⟨hsame, rfl⟩ := stickChange_none hleft
    obtain ⟨hright, rfl⟩ := stickChange_none h
    refine ⟨?_, rfl⟩
    intro side
    cases side with
    | left => exact hsame
    | right => simpa [stick_setStick] using hright

/-- A detection that finds nothing leaves every key as it was, which is as the current gamepad has
    it. -/
theorem holds_of_detect_none {current snapshot after : Gamepad}
    (h : current.detect snapshot = (none, after)) (key : Key) :
    after.holds key = snapshot.holds key ∧ snapshot.holds key = current.holds key := by
  unfold detect at h
  split at h
  · simp at h
  · next hfirst =>
    obtain ⟨hbuttons, htriggers⟩ := Option.or_eq_none_iff.1 hfirst
    obtain ⟨hsticks, rfl⟩ := sticksChange_none h
    constructor
    · rw [holds_setStick_same, holds_setStick_same (hsticks .left)]
      simpa [stick_setStick] using hsticks .right
    · cases key with
      | button btn => exact (isDown_of_buttonChange hbuttons btn).symm
      | trigger side => exact (pulls_of_triggerChange htriggers side).symm
      | stick side d => simp only [holds, hsticks side]

/-- A detection that finds nothing writes no more than the axes of the sticks. -/
theorem axes_of_detect_none {current snapshot after : Gamepad}
    (h : current.detect snapshot = (none, after)) :
    ∃ left right, after = (snapshot.setStick .left left).setStick .right right := by
  unfold detect at h
  split at h
  · cases h
  · exact ⟨_, _, (sticksChange_none h).2⟩

end PadLink.Gamepad
