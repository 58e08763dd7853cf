import PadLink.Proofs.Session.Queries
import PadLink.Proofs.Session.Sharing

set_option autoImplicit false

/-! # What a payload does

A payload of any length counts as a frame of 44 bytes: what is longer is cut, what is shorter is filled up
with zeros, and the limit of a receive lies so far behind the frame that it makes no difference
(`acceptPayload_eq`). The frame is four blocks one behind the other (`Datagram.flatMap_block`). The first
byte decides whether anything happens to the slots at all, and then every slot is treated by ten bytes of
its own block, since the first byte of a block is read by nobody (`Block.gamepad_congr`).

`payload_framed` says all this of the session behind a payload, also that two payloads with the same frame
lead to the same session, but for the payload that stands in the journal. -/

namespace PadLink

/-! ## Frames and blocks -/

namespace Datagram

/-- A frame is the payload's beginning, with zeros behind a payload that is too short. -/
theorem toList_ofPayload (payload : List UInt8) :
    (ofPayload payload).toList = payload.take 44 ++ List.replicate (44 - payload.length) 0 := by
  refine List.ext_getElem (by simp; omega) fun i hi _ => ?_
  have hi : i < 44 := by simpa using hi
  rw [Vector.getElem_toList, getElem_ofPayload, List.getElem_append]
  split
  · next hshort =>
    have hlength : i < payload.length := by
      rw [List.length_take] at hshort
      omega
    rw [List.getElem_take, List.getD_eq_getElem?_getD, List.getElem?_eq_getElem hlength]
    rfl
  · next hlong =>
    have hlength : payload.length ≤ i := by
      rw [List.length_take] at hlong
      omega
    rw [List.getElem_replicate, List.getD_eq_getElem?_getD, List.getElem?_eq_none hlength]
    rfl

theorem ofPayload_congr {payload other : List UInt8}
    (h : ∀ i < 44, other.getD i 0 = payload.getD i 0) : ofPayload other = ofPayload payload := by
  apply Vector.ext
  intro i hi
  rw [getElem_ofPayload, getElem_ofPayload, h i hi]

/-- The blocks are cut out of the datagram at multiples of their size. -/
theorem toList_block (datagram : Datagram) (slot : SlotIndex) :
    (datagram.block slot).toList = (datagram.toList.drop (11 * slot.val)).take 11 := by
  refine List.ext_getElem (by simp; omega) fun i hi _ => ?_
  have hi : i < 11 := by simpa using hi
  rw [Vector.getElem_toList, getElem_block, List.getElem_take, List.getElem_drop, Vector.getElem_toList]

/-- The four blocks one behind the other are the datagram. -/
theorem flatMap_block (datagram : Datagram) :
    (SlotIndex.all.flatMap fun slot => (datagram.block slot).toList) = datagram.toList := by
  have hcut : ∀ n, (datagram.toList.drop n).take 11 ++ datagram.toList.drop (n + 11)
      = datagram.toList.drop n := by
    intro n
    rw [← List.drop_drop, List.take_append_drop]
  calc (SlotIndex.all.flatMap fun slot => (datagram.block slot).toList)
      = (datagram.toList.drop 0).take 11 ++ ((datagram.toList.drop 11).take 11
          ++ ((datagram.toList.drop 22).take 11 ++ ((datagram.toList.drop 33).take 11
            ++ datagram.toList.drop 44))) := by
        have hend : datagram.toList.drop 44 = [] := List.drop_of_length_le (by simp)
        simp only [SlotIndex.all, toList_block, hend, List.flatMap_cons, List.flatMap_nil]
        rfl
    _ = datagram.toList := by rw [hcut 33, hcut 22, hcut 11, hcut 0, List.drop_zero]

/-- Only the header 2 makes a state reply, and a payload without bytes has the header 0. -/
theorem reply_ofPayload (payload : List UInt8) :
    (ofPayload payload).reply = .state ↔ payload.headD 0 = 2 := by
  have hheader : (ofPayload payload)[0] = payload.headD 0 := by
    rw [getElem_ofPayload]
    cases payload <;> rfl
  unfold reply
  rw [hheader, connectionHeader, stateHeader]
  generalize payload.headD 0 = header
  split
  · next hhandshake => simp [hhandshake]
  · split
    · next hstate => simp [hstate]
    · next hother => simp [hother]

end Datagram

namespace Block

/-- A block's gamepad and flag are read off its bytes behind the first. -/
theorem gamepad_congr {block other : Block}
    (h : ∀ i, 1 ≤ i → (hi : i < 11) → other[i] = block[i]) :
    other.gamepad = block.gamepad ∧ other.isFlagged = block.isFlagged := by
  have hshows : other.shows = block.shows := by
    funext btn
    cases btn <;> simp only [shows, h 2 (by decide) (by decide), h 3 (by decide) (by decide),
      h 4 (by decide) (by decide)]
  constructor
  · simp only [gamepad, hshows, h 5 (by decide) (by decide), h 6 (by decide) (by decide),
      h 7 (by decide) (by decide), h 8 (by decide) (by decide), h 9 (by decide) (by decide),
      h 10 (by decide) (by decide)]
  · rw [isFlagged, isFlagged, h 1 (by decide) (by decide)]

end Block

/-- Blocks that agree behind the first byte do the same to a slot. -/
theorem Slot.apply_congr (slot : Slot) {block other : Block}
    (h : ∀ i, 1 ≤ i → (hi : i < 11) → other[i] = block[i]) : slot.apply other = slot.apply block := by
  obtain ⟨hgamepad, hflag⟩ := Block.gamepad_congr h
  simp only [Slot.apply, Slot.update, hgamepad, hflag]

namespace Session

/-! ## Receiving a payload -/

/-- What the exchange makes of a datagram, as it would be without a journal before. -/
def response (session : Session) (datagram : Datagram) : Session :=
  (({ session.blank with failures := 0 } : Session).dispatch datagram).beginRound

/-- A payload is noted, and apart from that only its frame counts. -/
theorem acceptPayload_eq (session : Session) (payload : List UInt8) :
    session.acceptPayload payload
      = (layering (⟨session.now, .received (payload.take receiveLimit) session.peer⟩
          :: session.network.journal)).on (session.response (.ofPayload payload)) := by
  have hlimit : Datagram.ofPayload (payload.take receiveLimit) = .ofPayload payload :=
    Datagram.ofPayload_take payload (by decide)
  rw [response, Disguise.on_beginRound, Disguise.on_dispatch, (faithful_layering _).on_eq, acceptPayload,
    hlimit]
  rfl

/-- Either payload leads to the same session, but for the payload in the journal. -/
structure AlikeButPayload (session : Session) (payload other : List UInt8) : Prop where
  blank : (session.acceptPayload other).blank = (session.acceptPayload payload).blank
  journal : ∃ later,
    (session.acceptPayload payload).network.journal
        = later ++ ⟨session.now, .received (payload.take receiveLimit) session.peer⟩
          :: session.network.journal
      ∧ (session.acceptPayload other).network.journal
        = later ++ ⟨session.now, .received (other.take receiveLimit) session.peer⟩
          :: session.network.journal

theorem blank_layering (older : List Entry) (session : Session) :
    ((layering older).on session).blank = session.blank := by
  rw [(faithful_layering older).on_eq]
  rfl

theorem journal_layering (older : List Entry) (session : Session) :
    ((layering older).on session).network.journal = session.network.journal ++ older := by
  rw [(faithful_layering older).on_eq]
  rfl

theorem alikeButPayload_of_frame (session : Session) {payload other : List UInt8}
    (h : Datagram.ofPayload other = Datagram.ofPayload payload) :
    session.AlikeButPayload payload other := by
  constructor
  · rw [acceptPayload_eq, acceptPayload_eq, blank_layering, blank_layering, h]
  · refine ⟨(session.response (.ofPayload payload)).network.journal, ?_, ?_⟩
    · rw [acceptPayload_eq, journal_layering]
    · rw [acceptPayload_eq, journal_layering, h]

/-- A payload does to the bank what its frame says. -/
theorem bank_acceptPayload (session : Session) (payload : List UInt8) :
    (session.acceptPayload payload).bank
      = if payload.headD 0 = 2 then (session.bank.applyReply (.ofPayload payload)).2
        else session.bank := by
  rw [acceptPayload_eq, (faithful_layering _).on_eq, response, bank_beginRound,
    (bank_dispatch _ _).1]
  simp only [Datagram.reply_ofPayload]
  rfl

/-- The bytes of a slot in a payload, of which the first belongs to nobody. -/
theorem getElem_block_ofPayload (payload : List UInt8) (slot : SlotIndex) (i : Nat) (hi : i < 11) :
    ((Datagram.ofPayload payload).block slot)[i] = payload.getD (11 * slot.val + i) 0 := by
  rw [Datagram.getElem_block, Datagram.getElem_ofPayload]

/-- A payload acts by its first 44 bytes, with zeros in the place of those that are missing, and these are
    the four blocks one behind the other: a payload with the same frame leads to the same session, but for
    the payload in the journal. With any header but 2 it leaves the slots and the flag as they are. With the
    header 2 the bank is ready, and a slot is connected just when the payload has a second byte of its
    block and this is not zero. What becomes of the slot, and what is told of it, depends on the slot
    itself and on the ten bytes behind the first of its block, whatever the other slots and blocks hold. -/
theorem payload_framed (session : Session) (payload : List UInt8) :
    let datagram := Datagram.ofPayload payload
    let after := session.acceptPayload payload
    datagram.toList = payload.take 44 ++ List.replicate (44 - payload.length) 0
      ∧ (SlotIndex.all.flatMap fun slot => (datagram.block slot).toList) = datagram.toList
      ∧ (∀ other : List UInt8, (∀ i < 44, other.getD i 0 = payload.getD i 0) →
        session.AlikeButPayload payload other)
      ∧ (payload.headD 0 ≠ 2 → after.bank = session.bank)
      ∧ (payload.headD 0 = 2 → after.bank.ready = true ∧ ∀ slot,
        ((after.bank.slot slot).connected = true
            ↔ ∃ byte, payload[11 * slot.val + 1]? = some byte ∧ byte ≠ 0)
          ∧ ∀ (other : Session) (reply : List UInt8), reply.headD 0 = 2 →
            other.bank.slot slot = session.bank.slot slot →
            (∀ i, 1 ≤ i → i ≤ 10 →
              reply.getD (11 * slot.val + i) 0 = payload.getD (11 * slot.val + i) 0) →
            (other.acceptPayload reply).bank.slot slot = after.bank.slot slot
              ∧ ∀ change, (slot, change) ∈ (other.bank.applyReply (.ofPayload reply)).1
                ↔ (slot, change) ∈ (session.bank.applyReply datagram).1) := by
  intro datagram after
  have hbank : after.bank = _ := bank_acceptPayload session payload
  refine ⟨Datagram.toList_ofPayload payload, datagram.flatMap_block, fun other hframe => ?_,
    fun hheader => ?_, fun hheader => ?_⟩
  · exact session.alikeButPayload_of_frame (Datagram.ofPayload_congr hframe)
  · rw [hbank, if_neg hheader]
  rw [if_pos hheader] at hbank
  refine ⟨by rw [hbank, Bank.ready_applyReply], fun slot => ⟨?_, ?_⟩⟩
  · rw [hbank, Bank.slot_applyReply, Slot.connected_apply, Block.isFlagged,
      getElem_block_ofPayload payload slot 1 (by decide), List.getD_eq_getElem?_getD]
    cases payload[11 * slot.val + 1]? <;> simp
  · intro other reply hreply hslot hbytes
    have happly : (other.bank.slot slot).apply ((Datagram.ofPayload reply).block slot)
        = (session.bank.slot slot).apply (datagram.block slot) := by
      rw [hslot]
      refine Slot.apply_congr _ fun i hfirst hi => ?_
      rw [getElem_block_ofPayload, getElem_block_ofPayload, hbytes i hfirst (Nat.le_of_lt_succ hi)]
    constructor
    · rw [bank_acceptPayload, if_pos hreply, Bank.slot_applyReply, hbank, Bank.slot_applyReply, happly]
    · intro change
      rw [Bank.mem_applyReply, Bank.mem_applyReply, happly]

end Session

end PadLink
