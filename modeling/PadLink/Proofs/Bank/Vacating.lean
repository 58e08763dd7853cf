import Mathlib.Data.Finset.Card
import Mathlib.Data.Fintype.Basic
import PadLink.Proofs.Bank.History

set_option autoImplicit false

/-! # Two ways to vacate the bank

Controllers leave the bank in two ways: a state reply without them disconnects slot after slot, and an
outage disconnects them all and counts them. The two are written apart, but at each slot they take the same
step, whether or not it has a controller (`applyBlock_of_silent`). So they agree after any list of slots, in
what they leave behind and in what they count (`applyBlocks_of_silent`).

An outage treats each slot by itself and has nothing left to do a second time (`Slot.vacate_vacate`), so
the order of its steps does not matter (`vacateEach_eq_disconnectAll`). Nor does the order of a reply's
blocks, with controllers or without: no block touches a slot that another one reads
(`applyBlocks_perm`). -/

namespace PadLink

/-! ## One slot -/

namespace Slot

/-- A block without the flag vacates the slot, and says so if there was a controller. -/
theorem apply_of_silent (slot : Slot) {block : Block} (h : block.isFlagged = false) :
    slot.apply block = (if slot.connected then .disconnected else .idle, slot.vacate) := by
  have hchange : (slot.apply block).1 = if slot.connected then .disconnected else .idle := by
    rw [change_apply, h]
    cases slot.connected <;> rfl
  exact Prod.ext hchange (slot.apply_of_not_flagged h)

end Slot

namespace Bank

/-! ## Slot after slot -/

/-- The number of changes by which a controller went away. -/
def departures (changes : List (SlotIndex × SlotChange)) : Nat :=
  changes.countP fun change => change.2 = .disconnected

/-- A block without the flag does to the bank what an outage does at its slot. -/
theorem applyBlock_of_silent (bank : Bank) (index : SlotIndex) {block : Block}
    (h : block.isFlagged = false) :
    bank.applyBlock index block
      = (if (bank.slot index).connected then .disconnected else .idle,
          bank.modify index Slot.vacate) := by
  rw [applyBlock, Slot.apply_of_silent _ h]
  rfl

/-- Blocks without the flag, for whichever slots, do what an outage does at these slots, and their
    changes tell of as many controllers as the outage counts. -/
theorem applyBlocks_of_silent {blocks : SlotIndex → Block}
    (h : ∀ index, (blocks index).isFlagged = false) (order : List SlotIndex) (bank : Bank) :
    (departures (applyBlocks blocks order bank).1, (applyBlocks blocks order bank).2)
      = vacateEach order bank := by
  induction order generalizing bank with
  | nil => rfl
  | cons index rest ih =>
    rw [vacateEach, ← ih, applyBlocks, applyBlock_of_silent bank index (h index)]
    cases (bank.slot index).connected <;> simp [departures]

/-! ## The order of an outage -/

/-- An outage may go through the slots in any order. -/
theorem vacateEach_eq_disconnectAll {order : List SlotIndex} (horder : order.Perm SlotIndex.all)
    (bank : Bank) : vacateEach order bank = bank.disconnectAll := by
  refine Prod.ext ?_ (ext (fun index => ?_) ?_)
  · rw [fst_vacateEach (horder.nodup_iff.2 SlotIndex.nodup_all), horder.countP_eq, disconnectAll_eq]
  · rw [(slot_vacateEach order bank index).1 (horder.mem_iff.2 index.mem_all), slot_disconnectAll]
  · rw [ready_vacateEach, ready_disconnectAll]

/-- Four blocks without the flag do what an outage does. -/
theorem applyBlocks_eq_disconnectAll {blocks : SlotIndex → Block}
    (h : ∀ index, (blocks index).isFlagged = false) {order : List SlotIndex}
    (horder : order.Perm SlotIndex.all) (bank : Bank) :
    (departures (applyBlocks blocks order bank).1, (applyBlocks blocks order bank).2)
      = bank.disconnectAll :=
  (applyBlocks_of_silent h order bank).trans (vacateEach_eq_disconnectAll horder bank)

/-- An outage counts the slots that have a controller. -/
theorem fst_disconnectAll (bank : Bank) : bank.disconnectAll.1
    = (Finset.univ.filter fun index => (bank.slot index).connected = true).card := by
  have huniv : (Finset.univ : Finset SlotIndex) = SlotIndex.all.toFinset := by decide
  rw [huniv, ← List.toFinset_filter,
    List.toFinset_card_of_nodup (SlotIndex.nodup_all.filter _),
    ← List.countP_eq_length_filter, disconnectAll_eq]

/-- A bank without controllers has nothing to lose. -/
theorem disconnectAll_of_vacant {bank : Bank} (h : ∀ index, (bank.slot index).connected = false) :
    bank.disconnectAll = (0, bank) := by
  refine Prod.ext ?_ (ext (fun index => ?_) bank.ready_disconnectAll)
  · simp [fst_disconnectAll, h]
  · rw [slot_disconnectAll, Slot.vacate_of_not_connected (h index)]

/-! ## The order of a reply -/

/-- Blocks for different slots may be applied in any order. -/
theorem applyBlocks_perm (blocks : SlotIndex → Block) {order other : List SlotIndex}
    (hperm : order.Perm other) (hnodup : order.Nodup) (bank : Bank) :
    (applyBlocks blocks order bank).2 = (applyBlocks blocks other bank).2
      ∧ (applyBlocks blocks order bank).1.Perm (applyBlocks blocks other bank).1 := by
  have hother : other.Nodup := hperm.nodup_iff.1 hnodup
  constructor
  · refine ext (fun index => ?_) (by rw [ready_applyBlocks, ready_applyBlocks])
    obtain ⟨hlisted, hunlisted⟩ := slot_applyBlocks blocks hnodup bank index
    obtain ⟨hlisted', hunlisted'⟩ := slot_applyBlocks blocks hother bank index
    by_cases hmem : index ∈ order
    · rw [hlisted hmem, hlisted' (hperm.mem_iff.1 hmem)]
    · rw [hunlisted hmem, hunlisted' fun h => hmem (hperm.mem_iff.2 h)]
  · rw [fst_applyBlocks blocks hnodup, fst_applyBlocks blocks hother]
    exact hperm.map _

/-- A reply without controllers leaves the bank that an outage leaves, in whichever order its blocks are
    applied, and as many controllers go away as the outage counts: all that were there, and no more a second
    time. Of the slots that had one, the connection, the enabled flag and the capabilities are taken, and
    nothing else changes. The order of its blocks makes no difference to any reply: it leaves the same bank,
    and each slot changes once and alike. -/
theorem silence_is_outage (bank : Bank) {order : List SlotIndex} (horder : order.Perm SlotIndex.all) :
    let outage := bank.disconnectAll
    (∀ silent : SlotIndex → Block, (∀ index, (silent index).get 1 = 0) →
        let reply := applyBlocks silent order bank
        let again := applyBlocks silent order reply.2
        reply.2 = outage.2 ∧ departures reply.1 = outage.1
          ∧ again.2 = reply.2 ∧ departures again.1 = 0)
      ∧ vacateEach order bank = outage
      ∧ outage.1 = (Finset.univ.filter fun index => (bank.slot index).connected = true).card
      ∧ outage.2.disconnectAll = (0, outage.2)
      ∧ outage.2.ready = bank.ready
      ∧ (∀ index, outage.2.slot index
          = if (bank.slot index).connected then
              { bank.slot index with connected := false, enabled := false, capabilities := {} }
            else bank.slot index)
      ∧ ∀ datagram : Datagram,
          let reply := applyBlocks datagram.block order bank
          reply.2.setReady true = (bank.applyReply datagram).2
            ∧ reply.1.Perm (bank.applyReply datagram).1
            ∧ reply.1.map Prod.fst = order := by
  intro outage
  have hnodup : order.Nodup := horder.nodup_iff.2 SlotIndex.nodup_all
  have hsecond : outage.2.disconnectAll = (0, outage.2) :=
    disconnectAll_of_vacant bank.connected_disconnectAll
  refine ⟨fun silent hbyte => ?_, vacateEach_eq_disconnectAll horder bank, bank.fst_disconnectAll,
    hsecond, bank.ready_disconnectAll, fun index => ?_, fun datagram => ?_⟩
  · have hsilent : ∀ index, (silent index).isFlagged = false := fun index => by
      simpa [Block.isFlagged, Vector.get] using hbyte index
    intro reply again
    have hreply := applyBlocks_eq_disconnectAll hsilent horder bank
    have hleft : reply.2 = outage.2 := congrArg Prod.snd hreply
    -- The second time the blocks meet the bank that the outage leaves.
    have hagain : (departures again.1, again.2) = (0, outage.2) := by
      rw [← hsecond, ← hleft]
      exact applyBlocks_eq_disconnectAll hsilent horder reply.2
    exact ⟨hleft, congrArg Prod.fst hreply, (congrArg Prod.snd hagain).trans hleft.symm,
      congrArg Prod.fst hagain⟩
  · exact bank.slot_disconnectAll index
  · intro reply
    obtain ⟨hbank, hchanges⟩ := applyBlocks_perm datagram.block horder hnodup bank
    refine ⟨congrArg (setReady · true) hbank, hchanges, ?_⟩
    rw [fst_applyBlocks datagram.block hnodup bank, List.map_map]
    exact List.map_id order

/-- A bank with a controller that callers disabled, an enabled slot without one, and a controller whose
    motors run. -/
def mixedBank : Bank where
  slots := #v[{ connected := true, capabilities := .remote, state := { packetNumber := 7 } },
    { enabled := true }, { connected := true, enabled := true, vibration := ⟨1, 2⟩ }, {}]
  ready := true

/-- A block that has every byte set but the one that shows a controller. -/
def noisySilence : Block := Vector.ofFn fun i => if i.val = 1 then 0 else 255

theorem silence_of_mixedBank :
    let reply := applyBlocks (fun _ => noisySilence) [2, 0, 3, 1] mixedBank
    [2, 0, 3, 1].Perm SlotIndex.all ∧ noisySilence.get 1 = 0
      ∧ reply.2 = mixedBank.disconnectAll.2 ∧ departures reply.1 = mixedBank.disconnectAll.1
      ∧ mixedBank.disconnectAll.1 = 2 ∧ reply.2.slot 1 = { enabled := true } := by
  have horder : [2, 0, 3, 1].Perm SlotIndex.all := by decide
  have hbyte : noisySilence.get 1 = 0 := by decide
  obtain ⟨hsilence, -, -, -, -, hslots, -⟩ := silence_is_outage mixedBank horder
  obtain ⟨hleft, hcount, -⟩ := hsilence (fun _ => noisySilence) fun _ => hbyte
  refine ⟨horder, hbyte, hleft, hcount, by decide, ?_⟩
  rw [hleft, hslots]
  rfl

end Bank

end PadLink
