import PadLink.Keystroke.Basic

set_option autoImplicit false

/-! # Reading reports

What a caller knows of the keys is the list of keystrokes that were reported, here always with the
latest first. `actionsFor` picks out what was reported for one key of one slot, `isHeld` says whether
the key went down and has not come up since, and `alternation` is the only list of actions that a
key can have: down, up, down, and so on. -/

namespace PadLink

/-- The byte by which reports name a slot. -/
def SlotIndex.userIndex (slot : SlotIndex) : UInt8 := UInt8.ofNat slot.val

theorem SlotIndex.userIndex_inj {slot other : SlotIndex} (h : slot.userIndex = other.userIndex) :
    slot = other := by
  revert h
  revert slot other
  decide

namespace Keystroke

/-- What was reported for the key with the given code on one slot, the latest first. -/
def actionsFor (slot : SlotIndex) (code : UInt16) (reports : List Keystroke) : List KeyAction :=
  (reports.filter fun report => report.userIndex == slot.userIndex && report.virtualKey == code).map
    Keystroke.action

/-- Whether the key was reported down and has not been reported up since. -/
def isHeld (slot : SlotIndex) (code : UInt16) (reports : List Keystroke) : Bool :=
  (actionsFor slot code reports).head? == some .down

/-- So many actions of a key that begins with down and never repeats an action, the latest first. -/
def alternation : Nat → List KeyAction
  | 0 => []
  | n + 1 => (if n % 2 = 0 then .down else .up) :: alternation n

theorem length_alternation (n : Nat) : (alternation n).length = n := by
  induction n with
  | zero => rfl
  | succ n ih => rw [alternation, List.length_cons, ih]

/-- After an odd number of actions the key is down. -/
theorem head?_alternation (n : Nat) : (alternation n).head? = some .down ↔ n % 2 = 1 := by
  cases n with
  | zero => simp [alternation]
  | succ n =>
    simp only [alternation, List.head?_cons, Option.some.injEq]
    split
    · next h => simp; omega
    · next h => simp; omega

/-- The only action that can follow is the one that the key is not in. -/
theorem cons_alternation {n : Nat} {action : KeyAction}
    (h : (alternation n).head? = some .down ↔ action = .up) :
    action :: alternation n = alternation (n + 1) := by
  rw [head?_alternation] at h
  rw [alternation]
  cases action with
  | down => rw [if_pos (by simp at h; omega)]
  | up => rw [if_neg (by simp at h; omega)]

theorem alternation_of_append {later earlier : List KeyAction} {n : Nat}
    (h : later ++ earlier = alternation n) : earlier = alternation earlier.length := by
  induction later generalizing n with
  | nil =>
    rw [List.nil_append] at h
    rw [h, length_alternation]
  | cons action rest ih =>
    cases n with
    | zero => simp [alternation] at h
    | succ n =>
      rw [List.cons_append, alternation, List.cons.injEq] at h
      exact ih h.2

theorem actionsFor_append (slot : SlotIndex) (code : UInt16) (later earlier : List Keystroke) :
    actionsFor slot code (later ++ earlier)
      = actionsFor slot code later ++ actionsFor slot code earlier := by
  simp [actionsFor]

theorem actionsFor_report_self (slot : SlotIndex) (t : Transition) (reports : List Keystroke) :
    actionsFor slot t.key.code (t.report slot.userIndex :: reports)
      = t.action :: actionsFor slot t.key.code reports := by
  simp [actionsFor, Transition.report]

theorem actionsFor_report_other {slot other : SlotIndex} {code : UInt16} {t : Transition}
    (h : ¬(other = slot ∧ code = t.key.code)) (reports : List Keystroke) :
    actionsFor other code (t.report slot.userIndex :: reports) = actionsFor other code reports := by
  have hskip : ((t.report slot.userIndex).userIndex == other.userIndex
      && (t.report slot.userIndex).virtualKey == code) = false := by
    rw [Bool.eq_false_iff]
    intro hsame
    simp only [Transition.report, Bool.and_eq_true, beq_iff_eq] at hsame
    exact h ⟨(SlotIndex.userIndex_inj hsame.1).symm, hsame.2.symm⟩
  simp only [actionsFor, List.filter_cons, hskip, Bool.false_eq_true, if_false]

/-- In alternating reports a key that comes up was held. -/
theorem isHeld_of_up {slot : SlotIndex} {later earlier : List Keystroke} {report : Keystroke}
    {n : Nat} (h : actionsFor slot report.virtualKey (later ++ report :: earlier) = alternation n)
    (hslot : report.userIndex = slot.userIndex) (hup : report.action = .up) :
    isHeld slot report.virtualKey earlier = true := by
  have hcons : actionsFor slot report.virtualKey (report :: earlier)
      = .up :: actionsFor slot report.virtualKey earlier := by
    simp [actionsFor, hslot, hup]
  rw [actionsFor_append] at h
  have hsuffix := alternation_of_append h
  rw [hcons, List.length_cons, alternation, List.cons.injEq] at hsuffix
  obtain ⟨hhead, htail⟩ := hsuffix
  have hodd : (actionsFor slot report.virtualKey earlier).length % 2 = 1 := by
    split at hhead
    · cases hhead
    · omega
  rw [isHeld, htail, beq_iff_eq, head?_alternation]
  exact hodd

end Keystroke

end PadLink
