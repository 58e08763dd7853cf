import PadLink.Bank

set_option autoImplicit false

/-! # What the server has told of a slot

Of all that is done to a slot only two things come from the server: a block of a state reply, and an
outage, in which the server has nothing to say. A `Feed` lists them, the latest first, with `none`
for an outage. Connection, capabilities and state are functions of the feed (`Slot.Follows`), although
the slot never stores it: connecting starts the state afresh, so the packet number counts the latest
unbroken row of flagged blocks, and disconnecting keeps the state, so both number and gamepad outlast
the row. -/

namespace PadLink

/-- The blocks and outages of one slot, the latest first. -/
abbrev Feed := List (Option Block)

namespace Feed

/-- Whether the entry is a block that shows a controller. -/
def shows (entry : Option Block) : Bool := entry.any Block.isFlagged

/-- Whether the latest entry shows a controller. -/
def present (feed : Feed) : Bool := feed.head?.any shows

/-- The gamepad of the latest block that shows a controller. -/
def pad (feed : Feed) : Gamepad :=
  (feed.findSome? fun entry => entry.filter Block.isFlagged).elim {} Block.gamepad

/-- The length of the latest unbroken row of blocks that show a controller. -/
def streak (feed : Feed) : Nat :=
  ((feed.dropWhile fun entry => !shows entry).takeWhile shows).length

theorem present_cons (entry : Option Block) (feed : Feed) :
    present (entry :: feed) = shows entry := rfl

theorem exists_block_of_present {feed : Feed} (h : present feed = true) :
    ∃ block rest, feed = some block :: rest ∧ block.isFlagged = true := by
  match feed with
  | some block :: rest => exact ⟨block, rest, rfl, h⟩
  | none :: _ => exact absurd h (by simp [present, shows])
  | [] => exact absurd h (by simp [present])

theorem pad_cons_of_shows {block : Block} (h : block.isFlagged = true) (feed : Feed) :
    pad (some block :: feed) = block.gamepad := by
  simp [pad, Option.filter, h]

theorem pad_cons_of_not_shows {entry : Option Block} (h : shows entry = false) (feed : Feed) :
    pad (entry :: feed) = pad feed := by
  have hnone : entry.filter Block.isFlagged = none := by
    cases entry with
    | none => rfl
    | some block =>
      have hblock : block.isFlagged = false := h
      simp [Option.filter, hblock]
  simp only [pad, List.findSome?_cons, hnone]

/-- A block that shows a controller goes on with the row, or begins one. -/
theorem streak_cons_of_shows {entry : Option Block} (h : shows entry = true) (feed : Feed) :
    streak (entry :: feed) = (if present feed then streak feed else 0) + 1 := by
  have hrow : streak (entry :: feed) = (feed.takeWhile shows).length + 1 := by
    simp [streak, h]
  rw [hrow]
  cases feed with
  | nil => rfl
  | cons latest rest =>
    rw [present_cons]
    cases hlatest : shows latest with
    | true => simp [streak, hlatest]
    | false => simp [hlatest]

theorem streak_cons_of_not_shows {entry : Option Block} (h : shows entry = false) (feed : Feed) :
    streak (entry :: feed) = streak feed := by
  simp [streak, h]

end Feed

namespace Slot

/-- The part of a slot that the server decides. -/
def told (slot : Slot) : Bool × Capabilities × GamepadState :=
  (slot.connected, slot.capabilities, slot.state)

/-- The slot's connection, capabilities and state are those of the feed. -/
structure Follows (slot : Slot) (feed : Feed) : Prop where
  connected : slot.connected = Feed.present feed
  capabilities : slot.capabilities = if Feed.present feed then .remote else {}
  gamepad : slot.state.gamepad = Feed.pad feed
  packetNumber : slot.state.packetNumber = UInt32.ofNat (Feed.streak feed)

theorem follows_default : ({} : Slot).Follows [] := ⟨rfl, rfl, rfl, rfl⟩

/-- What is not told by the server does not matter. -/
theorem Follows.of_told {slot other : Slot} {feed : Feed} (h : slot.Follows feed)
    (htold : other.told = slot.told) : other.Follows feed := by
  simp only [told, Prod.mk.injEq] at htold
  obtain ⟨hconnected, hcapabilities, hstate⟩ := htold
  refine ⟨?_, ?_, ?_, ?_⟩
  · rw [hconnected, h.connected]
  · rw [hcapabilities, h.capabilities]
  · rw [hstate, h.gamepad]
  · rw [hstate, h.packetNumber]

/-- A slot without a controller takes no notice of more silence. -/
theorem Follows.silent {slot : Slot} {feed : Feed} (h : slot.Follows feed)
    (hconnected : slot.connected = false) {entry : Option Block}
    (hentry : Feed.shows entry = false) : slot.Follows (entry :: feed) := by
  have habsent : Feed.present feed = false := h.connected.symm.trans hconnected
  refine ⟨?_, ?_, ?_, ?_⟩
  · rw [hconnected, Feed.present_cons, hentry]
  · rw [h.capabilities, habsent, Feed.present_cons, hentry]
  · rw [h.gamepad, Feed.pad_cons_of_not_shows hentry]
  · rw [h.packetNumber, Feed.streak_cons_of_not_shows hentry]

theorem Follows.disconnect {slot : Slot} {feed : Feed} (h : slot.Follows feed)
    {entry : Option Block} (hentry : Feed.shows entry = false) :
    slot.disconnect.Follows (entry :: feed) := by
  refine ⟨?_, ?_, ?_, ?_⟩
  · rw [Feed.present_cons, hentry]
    rfl
  · rw [Feed.present_cons, hentry]
    rfl
  · rw [Feed.pad_cons_of_not_shows hentry]
    exact h.gamepad
  · rw [Feed.streak_cons_of_not_shows hentry]
    exact h.packetNumber

theorem Follows.vacate {slot : Slot} {feed : Feed} (h : slot.Follows feed) :
    slot.vacate.Follows (none :: feed) := by
  unfold Slot.vacate
  split
  · exact h.disconnect rfl
  · next hconnected => exact h.silent (Bool.eq_false_iff.2 hconnected) rfl

theorem Follows.apply {slot : Slot} {feed : Feed} (h : slot.Follows feed) (block : Block) :
    (slot.apply block).2.Follows (some block :: feed) := by
  have hconnected := h.connected
  cases hflag : block.isFlagged with
  | false =>
    have hshows : Feed.shows (some block) = false := hflag
    cases hslot : slot.connected with
    | false =>
      simp only [Slot.apply, hflag, hslot, Bool.false_eq_true, if_false]
      exact h.silent hslot hshows
    | true =>
      simp only [Slot.apply, hflag, hslot, Bool.false_eq_true, if_false, if_true]
      exact h.disconnect hshows
  | true =>
    have hshows : Feed.shows (some block) = true := hflag
    have hpresent : Feed.present (some block :: feed) = true := hflag
    cases hslot : slot.connected with
    | false =>
      rw [hslot] at hconnected
      simp only [Slot.apply, hflag, hslot, Bool.false_eq_true, if_false, if_true]
      refine ⟨hpresent.symm, ?_, ?_, ?_⟩
      · rw [hpresent]
        rfl
      · rw [Feed.pad_cons_of_shows hflag]
        rfl
      · rw [Feed.streak_cons_of_shows hshows, ← hconnected]
        rfl
    | true =>
      rw [hslot] at hconnected
      simp only [Slot.apply, hflag, hslot, if_true]
      refine ⟨hslot.trans hpresent.symm, ?_, ?_, ?_⟩
      · rw [hpresent]
        exact h.capabilities.trans (by rw [← hconnected])
      · rw [Feed.pad_cons_of_shows hflag]
        rfl
      · rw [Feed.streak_cons_of_shows hshows, ← hconnected, if_pos rfl, UInt32.ofNat_add,
          ← h.packetNumber]
        rfl

end Slot

end PadLink
