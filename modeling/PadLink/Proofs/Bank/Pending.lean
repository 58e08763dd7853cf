import Mathlib.Data.List.Basic
import PadLink.Proofs.Bank.Action
import PadLink.Proofs.Keystroke.Drain

set_option autoImplicit false

/-! # What is pending on a bank

What a bank owes a caller that goes through several slots is a list, slot after slot, and on each slot in
the order in which its transitions come (`backlog`). A query gives out the head of this list and leaves
its tail, however many slots it passes over on the way (`fst_firstKeystroke`, `backlog_firstKeystroke`).
So the number of what is pending bounds how often such a query can report something in a row, and there
are never more than twenty on a slot. -/

namespace PadLink.Bank

/-- The transitions of a slot that are still to be reported. -/
def pending (bank : Bank) (index : SlotIndex) : List Transition :=
  (bank.slot index).state.gamepad.pending (bank.slot index).reported

/-- The number of transitions that are still to be reported for the listed slots. -/
def pendingCount : List SlotIndex → Bank → Nat
  | [], _ => 0
  | index :: rest, bank => (bank.pending index).length + pendingCount rest bank

theorem pendingCount_le (slots : List SlotIndex) (bank : Bank) :
    pendingCount slots bank ≤ slots.length * 20 := by
  induction slots with
  | nil => exact Nat.le_refl 0
  | cons index rest ih =>
    have hfirst : (bank.pending index).length ≤ 20 := Gamepad.length_pending_le _ _
    rw [pendingCount, List.length_cons]
    omega

/-! ## One slot -/

/-- The keystrokes that a slot still has to report, in their order. -/
def due (bank : Bank) (index : SlotIndex) : List Keystroke :=
  (bank.pending index).map fun transition => transition.report (UInt8.ofNat index.val)

theorem due_eq_nil {bank : Bank} {index : SlotIndex} : bank.due index = [] ↔ bank.pending index = [] :=
  List.map_eq_nil_iff

/-- What a slot has to report depends on its gamepad and its snapshot. -/
theorem due_congr {bank other : Bank} {index : SlotIndex}
    (hgamepad : (other.slot index).state.gamepad = (bank.slot index).state.gamepad)
    (hreported : (other.slot index).reported = (bank.slot index).reported) :
    other.due index = bank.due index := by
  rw [due, pending, hgamepad, hreported]
  rfl

/-- A query of one slot reports the first of what is pending there. -/
theorem fst_nextKeystroke (bank : Bank) (index : SlotIndex) :
    (bank.nextKeystroke index).1 = (bank.due index).head? := by
  rw [due, List.head?_map, pending, ← Gamepad.fst_detect]
  rfl

/-- Behind a query of one slot the others are pending there. -/
theorem due_nextKeystroke (bank : Bank) (index : SlotIndex) :
    (bank.nextKeystroke index).2.due index = (bank.due index).tail := by
  rw [due, pending, slot_nextKeystroke, if_pos rfl]
  show (Gamepad.pending _ _).map _ = _
  rw [Gamepad.pending_detect, List.map_tail]
  rfl

theorem due_nextKeystroke_of_ne {bank : Bank} {index other : SlotIndex} (h : other ≠ index) :
    (bank.nextKeystroke index).2.due other = bank.due other := by
  rw [due, pending, slot_nextKeystroke, if_neg h]
  rfl

/-! ## Several slots -/

/-- The keystrokes that the listed slots still have to report, slot after slot. -/
def backlog (slots : List SlotIndex) (bank : Bank) : List Keystroke := slots.flatMap bank.due

theorem backlog_cons (index : SlotIndex) (rest : List SlotIndex) (bank : Bank) :
    backlog (index :: rest) bank = bank.due index ++ backlog rest bank := rfl

theorem backlog_congr {slots : List SlotIndex} {bank other : Bank}
    (h : ∀ index ∈ slots, other.due index = bank.due index) : backlog slots other = backlog slots bank :=
  List.flatMap_congr h

theorem backlog_eq_nil {slots : List SlotIndex} {bank : Bank} :
    backlog slots bank = [] ↔ ∀ index ∈ slots, bank.due index = [] := List.flatMap_eq_nil_iff

theorem length_backlog (slots : List SlotIndex) (bank : Bank) :
    (backlog slots bank).length = pendingCount slots bank := by
  induction slots with
  | nil => rfl
  | cons index rest ih => rw [backlog_cons, List.length_append, ih, due, List.length_map, pendingCount]

/-- A query through several slots gives out the first of what they have to report, and leaves the others
    as they are. -/
theorem backlog_step {slots : List SlotIndex} (hnodup : slots.Nodup) (bank : Bank) :
    (firstKeystroke slots bank).1 = (backlog slots bank).head?
      ∧ backlog slots (firstKeystroke slots bank).2 = (backlog slots bank).tail := by
  induction slots generalizing bank with
  | nil => exact ⟨rfl, rfl⟩
  | cons index rest ih =>
    obtain ⟨hindex, hrest⟩ := List.nodup_cons.1 hnodup
    have hreport := fst_nextKeystroke bank index
    have hdue := due_nextKeystroke bank index
    have hothers : backlog rest (bank.nextKeystroke index).2 = backlog rest bank :=
      backlog_congr fun other hother => due_nextKeystroke_of_ne (ne_of_mem_of_not_mem hother hindex)
    rw [firstKeystroke]
    rcases hfirst : bank.nextKeystroke index with ⟨_ | report, after⟩
    · rw [hfirst] at hreport hdue hothers
      have hnone : bank.due index = [] := List.head?_eq_none_iff.1 hreport.symm
      -- The others are asked, and this slot stays as it is.
      have hstays : (firstKeystroke rest after).2.due index = [] := by
        have hslot : (firstKeystroke rest after).2.slot index = after.slot index :=
          slot_firstKeystroke_of_notMem fun hasked => hindex (mem_of_mem_asked hasked)
        rw [due_congr (congrArg (·.state.gamepad) hslot) (congrArg Slot.reported hslot), hdue, hnone,
          List.tail_nil]
      obtain ⟨hhead, htail⟩ := ih hrest after
      dsimp only at hothers ⊢
      rw [backlog_cons, backlog_cons, hstays, hnone, List.nil_append, List.nil_append, ← hothers]
      exact ⟨hhead, htail⟩
    · rw [hfirst] at hreport hdue hothers
      have hsome : bank.due index ≠ [] := by
        intro hempty
        rw [hempty] at hreport
        cases hreport
      dsimp only at hreport hdue hothers ⊢
      rw [backlog_cons, backlog_cons, hdue, hothers, List.head?_append_of_ne_nil _ hsome, ← hreport,
        List.tail_append_of_ne_nil hsome]
      exact ⟨rfl, rfl⟩

/-- A query through several slots reports the first of what is pending on them. -/
theorem fst_firstKeystroke {slots : List SlotIndex} (hnodup : slots.Nodup) (bank : Bank) :
    (firstKeystroke slots bank).1 = (backlog slots bank).head? := (backlog_step hnodup bank).1

/-- Behind a query through several slots the others are pending on them. -/
theorem backlog_firstKeystroke {slots : List SlotIndex} (hnodup : slots.Nodup) (bank : Bank) :
    backlog slots (firstKeystroke slots bank).2 = (backlog slots bank).tail :=
  (backlog_step hnodup bank).2

/-- A trigger that comes up on one slot is reported before a button that goes down on a later one. -/
example : backlog SlotIndex.all
      ((({} : Bank).modify 3 fun slot => { slot with state.gamepad.buttons := 0x1000 }).modify 1
        fun slot => { slot with reported.leftTrigger := 255 })
    = [Transition.report ⟨.trigger .left, .up⟩ 1, Transition.report ⟨.button .a, .down⟩ 3] := by decide

/-- A query through several slots takes what it reports off what is pending, and reports something if
    anything is pending. -/
theorem pendingCount_firstKeystroke {slots : List SlotIndex} (hnodup : slots.Nodup) (bank : Bank) :
    pendingCount slots (firstKeystroke slots bank).2 = pendingCount slots bank - 1
      ∧ ((firstKeystroke slots bank).1 = none ↔ pendingCount slots bank = 0) := by
  rw [← length_backlog, ← length_backlog, backlog_firstKeystroke hnodup, List.length_tail,
    fst_firstKeystroke hnodup, List.head?_eq_none_iff, List.length_eq_zero_iff]
  exact ⟨rfl, Iff.rfl⟩

end PadLink.Bank
