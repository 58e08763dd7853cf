import PadLink.Proofs.Bank.Feed

set_option autoImplicit false

/-! # Runs of the bank

An `Action` is one thing that the exchange or a caller does to the bank; a run is a list of actions,
the latest first, and `Bank.after` is the bank that it leads to from a fresh one.

Every slot has a lock of its own, so an operation on all slots can be interrupted by others between
two slots. The actions cover this as well. `vacate` and `enableOne` are the share of one slot in an
outage and in a change of the enabled flags, and a keystroke query names the slots that it goes
through: all of them for the wildcard, one for an index, and one after the other for a wildcard query
that others interrupt. A list of actions is then any interleaving of any number of callers with the
exchange. -/

namespace PadLink.Bank

/-- One thing that is done to the bank. -/
inductive Action where
  | applyBlock (slot : SlotIndex) (block : Block)
  | disconnectAll
  | setVibration (slot : SlotIndex) (vibration : Vibration)
  | setEnabled (on : Bool)
  /-- A keystroke query that goes through the listed slots until one has a keystroke. -/
  | keystroke (slots : List SlotIndex)
  | vibrations
  | status (slot : SlotIndex)
  | setReady (ready : Bool)
  /-- The share of one slot in `disconnectAll`. -/
  | vacate (slot : SlotIndex)
  /-- The share of one slot in `setEnabled`. -/
  | enableOne (slot : SlotIndex) (on : Bool)
  deriving Repr

/-- The bank after an action, with the keystroke that it reports, if any. -/
def act (bank : Bank) : Action → Option Keystroke × Bank
  | .applyBlock slot block => (none, (bank.applyBlock slot block).2)
  | .disconnectAll => (none, bank.disconnectAll.2)
  | .setVibration slot vibration => (none, bank.setVibration slot vibration)
  | .setEnabled on => (none, bank.setEnabled on)
  | .keystroke slots => firstKeystroke slots bank
  | .vibrations | .status _ => (none, bank)
  | .setReady ready => (none, bank.setReady ready)
  | .vacate slot => (none, bank.modify slot Slot.vacate)
  | .enableOne slot on => (none, bank.modify slot fun slot => { slot with enabled := on })

/-- The bank after a run. -/
def after : List Action → Bank
  | [] => {}
  | action :: earlier => ((after earlier).act action).2

/-- The keystrokes reported in a run, the latest first. -/
def reports : List Action → List Keystroke
  | [] => []
  | action :: earlier => ((after earlier).act action).1.toList ++ reports earlier

/-! ## Keystroke queries -/

/-- The slots that a keystroke query looks at: it goes on until one has a keystroke. -/
def asked : List SlotIndex → Bank → List SlotIndex
  | [], _ => []
  | slot :: rest, bank =>
    match bank.nextKeystroke slot with
    | (some _, _) => [slot]
    | (none, bank) => slot :: asked rest bank

/-- What one query of each listed slot keeps true of the bank and of the reports so far, a query
    through them all keeps true. -/
theorem firstKeystroke_induction {P : List Keystroke → Bank → Prop} {slots : List SlotIndex}
    (hstep : ∀ slot ∈ slots, ∀ reports bank, P reports bank →
      P ((bank.nextKeystroke slot).1.toList ++ reports) (bank.nextKeystroke slot).2)
    (reports : List Keystroke) {bank : Bank} (h : P reports bank) :
    P ((firstKeystroke slots bank).1.toList ++ reports) (firstKeystroke slots bank).2 := by
  induction slots generalizing bank with
  | nil => exact h
  | cons slot rest ih =>
    have hone := hstep slot List.mem_cons_self reports bank h
    unfold firstKeystroke
    split
    · next report other heq =>
      rw [heq] at hone
      exact hone
    · next other heq =>
      rw [heq] at hone
      exact ih (fun slot hslot => hstep slot (List.mem_cons_of_mem _ hslot)) hone

theorem slot_nextKeystroke (bank : Bank) (index slot : SlotIndex) :
    (bank.nextKeystroke index).2.slot slot
      = if slot = index then
          { bank.slot slot with
            reported := ((bank.slot slot).state.gamepad.detect (bank.slot slot).reported).2 }
        else bank.slot slot := by
  simp only [nextKeystroke, slot_modify]
  by_cases h : slot = index
  · rw [if_pos h, if_pos h, h]
    rfl
  · rw [if_neg h, if_neg h]

/-- A query through several slots changes nothing of a slot but its snapshot. -/
theorem slot_firstKeystroke (slots : List SlotIndex) (bank : Bank) (slot : SlotIndex) :
    ∃ pad, (firstKeystroke slots bank).2.slot slot = { bank.slot slot with reported := pad } := by
  refine firstKeystroke_induction
    (P := fun _ other => ∃ pad, other.slot slot = { bank.slot slot with reported := pad })
    ?_ [] ⟨_, rfl⟩
  intro index _ _ other ⟨pad, hother⟩
  rw [slot_nextKeystroke]
  split
  · exact ⟨_, by rw [hother]⟩
  · exact ⟨pad, hother⟩

theorem told_firstKeystroke (slots : List SlotIndex) (bank : Bank) (slot : SlotIndex) :
    ((firstKeystroke slots bank).2.slot slot).told = (bank.slot slot).told := by
  obtain ⟨pad, hpad⟩ := slot_firstKeystroke slots bank slot
  rw [hpad]
  rfl

theorem slot_firstKeystroke_of_notMem {slots : List SlotIndex} {bank : Bank} {slot : SlotIndex}
    (h : slot ∉ asked slots bank) : (firstKeystroke slots bank).2.slot slot = bank.slot slot := by
  induction slots generalizing bank with
  | nil => rfl
  | cons index rest ih =>
    have hone : slot ≠ index → (bank.nextKeystroke index).2.slot slot = bank.slot slot := by
      intro hne
      rw [slot_nextKeystroke, if_neg hne]
    unfold asked at h
    unfold firstKeystroke
    rcases hask : bank.nextKeystroke index with ⟨report, other⟩
    rw [hask] at h hone
    cases report with
    | some report => exact hone (by simpa using h)
    | none =>
      rw [List.mem_cons, not_or] at h
      exact (ih h.2).trans (hone h.1)

theorem asked_cons (slot : SlotIndex) (rest : List SlotIndex) (bank : Bank) :
    asked (slot :: rest) bank = slot :: (if (bank.nextKeystroke slot).1.isSome then []
      else asked rest (bank.nextKeystroke slot).2) := by
  rw [asked]
  rcases bank.nextKeystroke slot with ⟨_ | report, other⟩ <;> rfl

theorem mem_of_mem_asked {slots : List SlotIndex} {bank : Bank} {slot : SlotIndex}
    (h : slot ∈ asked slots bank) : slot ∈ slots := by
  induction slots generalizing bank with
  | nil => exact h
  | cons index rest ih =>
    rw [asked_cons, List.mem_cons] at h
    rcases h with rfl | h
    · exact List.mem_cons_self
    · split at h
      · cases h
      · exact List.mem_cons_of_mem _ (ih h)

/-- A query leaves each slot that it looks at as a query of that slot alone would. -/
theorem slot_firstKeystroke_of_mem {slots : List SlotIndex} (hnodup : slots.Nodup) {bank : Bank}
    {slot : SlotIndex} (h : slot ∈ asked slots bank) :
    (firstKeystroke slots bank).2.slot slot = (bank.nextKeystroke slot).2.slot slot := by
  induction slots generalizing bank with
  | nil => cases h
  | cons index rest ih =>
    obtain ⟨hindex, hrest⟩ := List.nodup_cons.1 hnodup
    rw [asked_cons, List.mem_cons] at h
    rw [firstKeystroke]
    rcases hask : bank.nextKeystroke index with ⟨_ | report, other⟩
    · rw [hask] at h
      dsimp only
      by_cases hself : slot = index
      · subst hself
        rw [hask, slot_firstKeystroke_of_notMem fun hmem => hindex (mem_of_mem_asked hmem)]
      · have hother : other.slot slot = bank.slot slot := by
          have hone := slot_nextKeystroke bank index slot
          rw [hask, if_neg hself] at hone
          exact hone
        rw [ih hrest (h.resolve_left hself), slot_nextKeystroke, slot_nextKeystroke, hother]
    · rw [hask] at h
      obtain rfl : slot = index := h.resolve_right List.not_mem_nil
      rw [hask]

/-- What a query does to a slot depends on that slot alone, once it is known whether it looks at it. -/
theorem slot_firstKeystroke_congr {slots : List SlotIndex} (hnodup : slots.Nodup) {bank other : Bank}
    {slot : SlotIndex} (hslot : bank.slot slot = other.slot slot)
    (hasked : slot ∈ asked slots bank ↔ slot ∈ asked slots other) :
    (firstKeystroke slots bank).2.slot slot = (firstKeystroke slots other).2.slot slot := by
  by_cases h : slot ∈ asked slots bank
  · rw [slot_firstKeystroke_of_mem hnodup h, slot_firstKeystroke_of_mem hnodup (hasked.1 h),
      slot_nextKeystroke, slot_nextKeystroke, hslot]
  · rw [slot_firstKeystroke_of_notMem h, slot_firstKeystroke_of_notMem fun hmem => h (hasked.2 hmem),
      hslot]

/-- Two banks give the same report, or both queries look at a slot in which the banks differ. -/
theorem firstKeystroke_eq_or_asked {slots : List SlotIndex} {bank other : Bank}
    {hidden : SlotIndex → Bool}
    (h : ∀ slot, hidden slot = false → bank.slot slot = other.slot slot) :
    (firstKeystroke slots bank).1 = (firstKeystroke slots other).1
      ∨ ∃ slot, hidden slot = true ∧ slot ∈ asked slots bank ∧ slot ∈ asked slots other := by
  induction slots generalizing bank other with
  | nil => exact Or.inl rfl
  | cons index rest ih =>
    rw [asked_cons, asked_cons]
    cases hindex : hidden index with
    | true => exact Or.inr ⟨index, hindex, List.mem_cons_self, List.mem_cons_self⟩
    | false =>
      have hreport : (bank.nextKeystroke index).1 = (other.nextKeystroke index).1 := by
        simp only [nextKeystroke, h index hindex]
      have hafter : ∀ slot, hidden slot = false →
          (bank.nextKeystroke index).2.slot slot = (other.nextKeystroke index).2.slot slot := by
        intro slot hslot
        rw [slot_nextKeystroke, slot_nextKeystroke, h slot hslot]
      rw [firstKeystroke, firstKeystroke]
      rcases hone : bank.nextKeystroke index with ⟨_ | report, next⟩
      · rcases htwo : other.nextKeystroke index with ⟨_ | report, last⟩
        · rw [hone, htwo] at hafter
          exact (ih hafter).imp id fun ⟨slot, hslot, hmem, hother⟩ =>
            ⟨slot, hslot, List.mem_cons_of_mem _ hmem, List.mem_cons_of_mem _ hother⟩
        · rw [hone, htwo] at hreport
          cases hreport
      · rcases htwo : other.nextKeystroke index with ⟨_ | found, last⟩
        · rw [hone, htwo] at hreport
          cases hreport
        · rw [hone, htwo] at hreport
          exact Or.inl hreport

theorem ready_firstKeystroke (slots : List SlotIndex) (bank : Bank) :
    (firstKeystroke slots bank).2.ready = bank.ready :=
  firstKeystroke_induction (P := fun _ other => other.ready = bank.ready)
    (fun _ _ _ _ hother => hother) [] rfl

end PadLink.Bank
