import PadLink.Json.Device
import PadLink.Shared

set_option autoImplicit false

/-! # The monitor

The monitor is a program that shows what the shared session sees: it enables every slot, and then
again and again reports all keystrokes that are pending, once a second also the state of every
connected slot, and sleeps for ten milliseconds. It runs until an error other than a missing
controller, or until the process ends.

What it does is a list of notes; those that are printed have a JSON form. The time at which a dump
of the states begins is a note too, but nothing is printed for it. -/

namespace PadLink

namespace Monitor

/-- What the monitor has done. -/
inductive Note where
  /-- A keystroke was printed. -/
  | keystroke (report : Keystroke)
  /-- A dump of the states began at a time. -/
  | dump (time : Nat)
  /-- The state of a connected slot was printed. -/
  | slot (status : SlotStatus) (state : GamepadState)
  deriving DecidableEq, Repr

/-- The line that is printed for a note. -/
def Note.toJson? : Note → Option Json
  | keystroke report => some (.record [("keystroke", toJson report)])
  | dump _ => none
  | slot status state => some (.record [("slot", status.toJson), ("state", toJson state)])

/-- Why the monitor has ended. -/
inductive Ending where
  /-- The process was ended while the monitor slept between two rounds. -/
  | stopped
  /-- A request had not come back when the process was ended. -/
  | waiting
  /-- A request failed. -/
  | failed (error : Error)
  /-- The rounds ran out before the process was ended. -/
  | unfinished
  deriving DecidableEq, Repr

/-- The exit code of the program. -/
def Ending.exitCode : Ending → Nat
  | stopped | waiting | unfinished => 0
  | failed _ => 1

/-- The time between two dumps. -/
def dumpInterval : Nat := 1000

/-- The time that the monitor sleeps between two rounds. -/
def roundSleep : Nat := 10

/-- Report pending keystrokes, so many at most. -/
def drain : Nat → Session → List Note × Session
  | 0, session => ([], session)
  | count + 1, session =>
    match session.nextKeystroke .any with
    | (.ok (some report), after) =>
      let others := drain count after
      (.keystroke report :: others.1, others.2)
    | (_, after) => ([], after)

/-- There are never more keystrokes pending than this: on each slot fourteen buttons, two triggers,
    and two sticks that leave one direction for another. -/
def drainLimit : Nat := slotCount * 20

/-- Report the states of the listed slots, as far as they have a controller, and give the session
    after it, or the reason for which the monitor ends. -/
def dumpSlots : List SlotIndex → Session → List Note × Except Ending Session
  | [], session => ([], .ok session)
  | slot :: rest, session =>
    match session.extendedState (UInt32.ofNat slot.val) with
    | none => ([], .error .waiting)
    | some (.ok state, after) =>
      let others := dumpSlots rest after
      (.slot (after.bank.status slot) state :: others.1, others.2)
    | some (.error (.notConnected _), after) => dumpSlots rest after
    | some (.error error, _) => ([], .error (.failed error))

/-- Report the states if that is due. The time of the latest dump goes with the session. -/
def dump (latest : Nat) (session : Session) : List Note × Except Ending (Nat × Session) :=
  if latest + dumpInterval ≤ session.now then
    let outcome := dumpSlots SlotIndex.all session
    (.dump session.now :: outcome.1, outcome.2.map fun after => (session.now, after))
  else ([], .ok (latest, session))

/-- Report keystrokes, and states if they are due, round after round. -/
def rounds : (count latest : Nat) → Session → List Note × Ending
  | 0, _, _ => ([], .unfinished)
  | count + 1, latest, session =>
    let drained := drain (drainLimit + 1) session
    let dumped := dump latest drained.2
    let sofar := drained.1 ++ dumped.1
    match dumped.2 with
    | .error ending => (sofar, ending)
    | .ok (latest, after) =>
      match after.sleep roundSleep with
      | none => (sofar, .stopped)
      | some rested =>
        let others := rounds count latest rested
        (sofar ++ others.1, others.2)

/-- Run the monitor in an environment up to the time at which the process ends, and give what it did
    and how it ended. Every round takes ten milliseconds or more, which bounds their number: no run is
    unfinished. -/
def run (environment : Environment) (network : Network) (stopAt : Nat) : List Note × Ending :=
  let process := Shared.idle environment { network with stopAt := some stopAt }
  match process.answer (.enable true) with
  | none => ([], .waiting)
  | some (_, shared) => rounds (stopAt / roundSleep + 1) shared.network.now shared.session

end Monitor

end PadLink
