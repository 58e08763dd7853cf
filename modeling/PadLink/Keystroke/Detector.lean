import PadLink.Keystroke.Basic

set_option autoImplicit false

/-! # Edge detection

The detector compares what a gamepad shows now with a snapshot, the gamepad as far as its keys have
been reported already, and reports one difference at a time. `Gamepad.detect` gives the next
transition, if there is one, and the snapshot after it. A caller who asks again and again until
there is none has heard of every difference.

The order is fixed: buttons in the order of `Button.all`, then the triggers, then the sticks, and
each time the left side first. Reporting a transition updates only the part of the snapshot that
the transition covers. A stick that moved from one direction to another takes two reports: first
the old direction comes up and the snapshot's stick is put back to the middle, then the new one
goes down. A stick whose direction is the snapshot's is copied silently, so the snapshot follows
its raw values.

`Gamepad.pending` lists all differences at once, in reporting order, without any snapshot in
between. -/

namespace PadLink

namespace Gamepad

/-! ## One difference at a time -/

/-- The first button whose state differs from the snapshot's, as a transition, with the snapshot
    that has this one bit brought up to date. -/
def buttonChange (current snapshot : Gamepad) : Option (Transition × Gamepad) :=
  (Button.all.find? fun btn => current.isDown btn != snapshot.isDown btn).map fun btn =>
    (⟨.button btn, .towards (current.isDown btn)⟩, snapshot.setButton btn (current.isDown btn))

/-- The first trigger whose pull differs from the snapshot's, as a transition, with the snapshot
    that has taken over this trigger's value. -/
def triggerChange (current snapshot : Gamepad) : Option (Transition × Gamepad) :=
  (Side.all.find? fun side => current.pulls side != snapshot.pulls side).map fun side =>
    (⟨.trigger side, .towards (current.pulls side)⟩,
      snapshot.setTrigger side (current.trigger side))

/-- The next transition of one stick, and the snapshot after it. A stick that leaves a direction
    reports that first, and the snapshot's stick returns to the middle. -/
def stickChange (current snapshot : Gamepad) (side : Side) : Option Transition × Gamepad :=
  let seen := (snapshot.stick side).direction
  let shown := (current.stick side).direction
  if shown = seen then
    (none, snapshot.setStick side (current.stick side))
  else
    match seen with
    | some direction => (some ⟨.stick side direction, .up⟩, snapshot.setStick side {})
    -- The stick has left the middle, so there is a direction to report.
    | none =>
      (shown.map fun direction => ⟨.stick side direction, .down⟩,
        snapshot.setStick side (current.stick side))

/-- The next transition of the left stick, or else of the right one. -/
def sticksChange (current snapshot : Gamepad) : Option Transition × Gamepad :=
  match current.stickChange snapshot .left with
  | (some transition, after) => (some transition, after)
  | (none, after) => current.stickChange after .right

/-- The next transition between the snapshot and the current gamepad, and the snapshot after it. -/
def detect (current snapshot : Gamepad) : Option Transition × Gamepad :=
  match (current.buttonChange snapshot).or (current.triggerChange snapshot) with
  | some (transition, after) => (some transition, after)
  | none => current.sticksChange snapshot

/-! ## All differences at once -/

/-- The transitions by which one stick comes from the snapshot's direction to the current one. -/
def stickPending (current snapshot : Gamepad) (side : Side) : List Transition :=
  let seen := (snapshot.stick side).direction
  let shown := (current.stick side).direction
  if shown = seen then []
  else (seen.toList.map fun direction => ⟨.stick side direction, .up⟩)
    ++ (shown.toList.map fun direction => ⟨.stick side direction, .down⟩)

/-- Every transition that leads from the snapshot to the current gamepad, in reporting order. -/
def pending (current snapshot : Gamepad) : List Transition :=
  ((Button.all.filter fun btn => current.isDown btn != snapshot.isDown btn).map fun btn =>
      ⟨.button btn, .towards (current.isDown btn)⟩)
    ++ ((Side.all.filter fun side => current.pulls side != snapshot.pulls side).map fun side =>
      ⟨.trigger side, .towards (current.pulls side)⟩)
    ++ Side.all.flatMap (current.stickPending snapshot)

/-- A gamepad compared with itself has nothing to report. -/
theorem pending_self (pad : Gamepad) : pad.pending pad = [] := by
  simp [pending, stickPending, Side.all]

end Gamepad

end PadLink
