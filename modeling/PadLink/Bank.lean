import PadLink.Slot
import PadLink.Wire.Datagram

set_option autoImplicit false

/-! # The bank of slots

The bank holds the four slots and the readiness flag on which callers wait. A state reply brings
every slot up to date and then makes the bank ready; an outage vacates every slot. Each operation
is described slot by slot: what it does to one slot does not depend on the others
(`slot_modify`). -/

namespace PadLink

/-- A report on one slot. -/
structure SlotStatus where
  index : SlotIndex
  connected : Bool
  enabled : Bool
  vibration : Vibration
  deriving DecidableEq, Repr

/-- The four slots and whether callers may rely on them. -/
structure Bank where
  slots : Vector Slot 4 := Vector.replicate 4 {}
  ready : Bool := false
  deriving DecidableEq, Repr

namespace Bank

/-! ## One slot -/

/-- The slot at an index. -/
def slot (bank : Bank) (index : SlotIndex) : Slot := bank.slots[index]

/-- Two banks with the same slots and the same flag are the same. -/
theorem ext {bank other : Bank} (hslots : ∀ index, bank.slot index = other.slot index)
    (hready : bank.ready = other.ready) : bank = other := by
  obtain ⟨slots, ready⟩ := bank
  obtain ⟨slots', ready'⟩ := other
  obtain rfl : ready = ready' := hready
  have : slots = slots' := by
    apply Vector.ext
    intro i hi
    exact hslots ⟨i, hi⟩
  rw [this]

@[simp] theorem slot_default (index : SlotIndex) : ({} : Bank).slot index = {} := by
  simp [slot]

/-- The bank with one slot changed. -/
def modify (bank : Bank) (index : SlotIndex) (f : Slot → Slot) : Bank :=
  { bank with slots := bank.slots.set index (f (bank.slot index)) }

theorem slot_modify (bank : Bank) (index other : SlotIndex) (f : Slot → Slot) :
    (bank.modify index f).slot other
      = if other = index then f (bank.slot index) else bank.slot other := by
  simp only [slot, modify, Fin.getElem_fin, Vector.getElem_set, Fin.ext_iff, eq_comm]

@[simp] theorem ready_modify (bank : Bank) (index : SlotIndex) (f : Slot → Slot) :
    (bank.modify index f).ready = bank.ready := rfl

/-- The bank with every slot changed alike. -/
def mapSlots (bank : Bank) (f : Slot → Slot) : Bank := { bank with slots := bank.slots.map f }

@[simp] theorem slot_mapSlots (bank : Bank) (f : Slot → Slot) (index : SlotIndex) :
    (bank.mapSlots f).slot index = f (bank.slot index) := by
  simp [slot, mapSlots]

@[simp] theorem ready_mapSlots (bank : Bank) (f : Slot → Slot) :
    (bank.mapSlots f).ready = bank.ready := rfl

/-! ## What the server writes -/

/-- The bank with its readiness flag set or cleared. -/
def setReady (bank : Bank) (ready : Bool) : Bank := { bank with ready := ready }

@[simp] theorem slot_setReady (bank : Bank) (ready : Bool) (index : SlotIndex) :
    (bank.setReady ready).slot index = bank.slot index := rfl

/-- Apply one block to one slot. -/
def applyBlock (bank : Bank) (index : SlotIndex) (block : Block) : SlotChange × Bank :=
  let outcome := (bank.slot index).apply block
  (outcome.1, bank.modify index fun _ => outcome.2)

/-- Apply the blocks of the listed slots one after the other, noting what each did. -/
def applyBlocks (blocks : SlotIndex → Block) :
    List SlotIndex → Bank → List (SlotIndex × SlotChange) × Bank
  | [], bank => ([], bank)
  | index :: rest, bank =>
    let first := bank.applyBlock index (blocks index)
    let others := applyBlocks blocks rest first.2
    ((index, first.1) :: others.1, others.2)

theorem slot_applyBlock (bank : Bank) (index other : SlotIndex) (block : Block) :
    (bank.applyBlock index block).2.slot other
      = if other = index then ((bank.slot index).apply block).2 else bank.slot other := by
  simp only [applyBlock, slot_modify]

theorem ready_applyBlocks (blocks : SlotIndex → Block) (order : List SlotIndex) (bank : Bank) :
    (applyBlocks blocks order bank).2.ready = bank.ready := by
  induction order generalizing bank with
  | nil => rfl
  | cons index rest ih =>
    simp only [applyBlocks]
    rw [ih]
    rfl

/-- Each listed slot takes its own block, and no other slot is touched. -/
theorem slot_applyBlocks (blocks : SlotIndex → Block) {order : List SlotIndex}
    (hnodup : order.Nodup) (bank : Bank) (other : SlotIndex) :
    (other ∈ order → (applyBlocks blocks order bank).2.slot other
        = ((bank.slot other).apply (blocks other)).2)
      ∧ (other ∉ order → (applyBlocks blocks order bank).2.slot other = bank.slot other) := by
  induction order generalizing bank with
  | nil => exact ⟨fun hmem => absurd hmem List.not_mem_nil, fun _ => rfl⟩
  | cons index rest ih =>
    obtain ⟨hindex, hrest⟩ := List.nodup_cons.1 hnodup
    obtain ⟨hlisted, hunlisted⟩ := ih hrest (bank.applyBlock index (blocks index)).2
    simp only [applyBlocks]
    rw [slot_applyBlock] at hlisted hunlisted
    constructor
    · intro hmem
      by_cases h : other = index
      · subst h
        rw [hunlisted hindex, if_pos rfl]
      · rw [hlisted (List.mem_of_ne_of_mem h hmem), if_neg h]
    · intro hmem
      rw [List.mem_cons, not_or] at hmem
      rw [hunlisted hmem.2, if_neg hmem.1]

/-- Each block of a reply does to its slot what it does to the slot as it was before the reply. -/
theorem fst_applyBlocks (blocks : SlotIndex → Block) {order : List SlotIndex} (hnodup : order.Nodup)
    (bank : Bank) : (applyBlocks blocks order bank).1
      = order.map fun index => (index, ((bank.slot index).apply (blocks index)).1) := by
  induction order generalizing bank with
  | nil => rfl
  | cons index rest ih =>
    obtain ⟨hindex, hrest⟩ := List.nodup_cons.1 hnodup
    rw [applyBlocks, ih hrest, List.map_cons]
    refine congrArg _ (List.map_congr_left fun other hother => ?_)
    have hne : other ≠ index := by
      rintro rfl
      exact hindex hother
    rw [slot_applyBlock, if_neg hne]

/-- Apply a state reply: every slot's block in ascending order, and then readiness. -/
def applyReply (bank : Bank) (datagram : Datagram) : List (SlotIndex × SlotChange) × Bank :=
  let outcome := applyBlocks datagram.block SlotIndex.all bank
  (outcome.1, outcome.2.setReady true)

/-- A state reply is applied slot by slot. -/
theorem slot_applyReply (bank : Bank) (datagram : Datagram) (index : SlotIndex) :
    (bank.applyReply datagram).2.slot index
      = ((bank.slot index).apply (datagram.block index)).2 := by
  show (applyBlocks datagram.block SlotIndex.all bank).2.slot index = _
  exact (slot_applyBlocks datagram.block SlotIndex.nodup_all bank index).1 (SlotIndex.mem_all index)

/-- A state reply makes the bank ready. -/
theorem ready_applyReply (bank : Bank) (datagram : Datagram) :
    (bank.applyReply datagram).2.ready = true := rfl

/-- Vacate the listed slots one after the other, counting those that had a controller. -/
def vacateEach : List SlotIndex → Bank → Nat × Bank
  | [], bank => (0, bank)
  | index :: rest, bank =>
    let others := vacateEach rest (bank.modify index Slot.vacate)
    (if (bank.slot index).connected then others.1 + 1 else others.1, others.2)

/-- Each listed slot is vacated, and no other slot is touched. -/
theorem slot_vacateEach (order : List SlotIndex) (bank : Bank) (index : SlotIndex) :
    (index ∈ order → (vacateEach order bank).2.slot index = (bank.slot index).vacate)
      ∧ (index ∉ order → (vacateEach order bank).2.slot index = bank.slot index) := by
  induction order generalizing bank with
  | nil => exact ⟨fun hmem => absurd hmem List.not_mem_nil, fun _ => rfl⟩
  | cons first rest ih =>
    obtain ⟨hlisted, hunlisted⟩ := ih (bank.modify first Slot.vacate)
    rw [slot_modify] at hlisted hunlisted
    simp only [vacateEach]
    by_cases h : index = first
    · subst h
      rw [if_pos rfl] at hlisted hunlisted
      refine ⟨fun _ => ?_, fun hmem => absurd List.mem_cons_self hmem⟩
      -- The slot may be listed again, which changes nothing.
      by_cases hagain : index ∈ rest
      · rw [hlisted hagain, Slot.vacate_vacate]
      · exact hunlisted hagain
    · rw [if_neg h] at hlisted hunlisted
      exact ⟨fun hmem => hlisted (List.mem_of_ne_of_mem h hmem),
        fun hmem => hunlisted fun hrest => hmem (List.mem_cons_of_mem first hrest)⟩

theorem ready_vacateEach (order : List SlotIndex) (bank : Bank) :
    (vacateEach order bank).2.ready = bank.ready := by
  induction order generalizing bank with
  | nil => rfl
  | cons first rest ih => rw [vacateEach, ih, ready_modify]

/-- Each slot is counted as it was before, since the steps at the other slots leave it alone. -/
theorem fst_vacateEach {order : List SlotIndex} (hnodup : order.Nodup) (bank : Bank) :
    (vacateEach order bank).1 = order.countP fun index => (bank.slot index).connected := by
  induction order generalizing bank with
  | nil => rfl
  | cons first rest ih =>
    obtain ⟨hfirst, hrest⟩ := List.nodup_cons.1 hnodup
    have hothers : (rest.countP fun index => ((bank.modify first Slot.vacate).slot index).connected)
        = rest.countP fun index => (bank.slot index).connected := by
      refine List.countP_congr fun index hindex => ?_
      have hne : index ≠ first := by
        rintro rfl
        exact hfirst hindex
      rw [slot_modify, if_neg hne]
    rw [vacateEach, ih hrest, hothers, List.countP_cons]
    split <;> rfl

/-- Vacate every slot, counting those that had a controller. -/
def disconnectAll (bank : Bank) : Nat × Bank := vacateEach SlotIndex.all bank

/-- An outage vacates all slots at once, and counts the controllers that were there before it. -/
theorem disconnectAll_eq (bank : Bank) :
    bank.disconnectAll = (SlotIndex.all.countP fun index => (bank.slot index).connected,
      bank.mapSlots Slot.vacate) := by
  refine Prod.ext (fst_vacateEach SlotIndex.nodup_all bank)
    (ext (fun index => ?_) (ready_vacateEach SlotIndex.all bank))
  rw [disconnectAll, (slot_vacateEach _ bank index).1 index.mem_all, slot_mapSlots]

@[simp] theorem slot_disconnectAll (bank : Bank) (index : SlotIndex) :
    bank.disconnectAll.2.slot index = (bank.slot index).vacate := by
  rw [disconnectAll_eq, slot_mapSlots]

@[simp] theorem ready_disconnectAll (bank : Bank) : bank.disconnectAll.2.ready = bank.ready := by
  rw [disconnectAll_eq, ready_mapSlots]

/-- After an outage no slot has a controller. -/
theorem connected_disconnectAll (bank : Bank) (index : SlotIndex) :
    (bank.disconnectAll.2.slot index).connected = false := by
  rw [slot_disconnectAll, Slot.connected_vacate]

/-! ## What callers write and read -/

/-- The motor speeds of every slot. -/
def vibrations (bank : Bank) : Vector Vibration 4 := bank.slots.map Slot.vibration

theorem getElem_vibrations (bank : Bank) (index : SlotIndex) :
    bank.vibrations[index] = (bank.slot index).vibration := by
  simp [vibrations, slot]

/-- Set the motor speeds of one slot. -/
def setVibration (bank : Bank) (index : SlotIndex) (vibration : Vibration) : Bank :=
  bank.modify index fun slot => { slot with vibration := vibration }

/-- Enable or disable every slot, whether it has a controller or not. -/
def setEnabled (bank : Bank) (enabled : Bool) : Bank :=
  bank.mapSlots fun slot => { slot with enabled := enabled }

/-- The report on one slot. -/
def status (bank : Bank) (index : SlotIndex) : SlotStatus :=
  let slot := bank.slot index
  { index := index, connected := slot.connected, enabled := slot.enabled,
    vibration := slot.vibration }

/-- The next keystroke of one slot. -/
def nextKeystroke (bank : Bank) (index : SlotIndex) : Option Keystroke × Bank :=
  let outcome := (bank.slot index).nextKeystroke index
  (outcome.1, bank.modify index fun _ => outcome.2)

/-- The next keystroke of the first listed slot that has one. The slots passed over on the way are
    left as their own query leaves them. -/
def firstKeystroke : List SlotIndex → Bank → Option Keystroke × Bank
  | [], bank => (none, bank)
  | index :: rest, bank =>
    match bank.nextKeystroke index with
    | (some keystroke, bank) => (some keystroke, bank)
    | (none, bank) => firstKeystroke rest bank

end Bank

end PadLink
