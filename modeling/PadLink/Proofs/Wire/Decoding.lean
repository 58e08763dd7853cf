import PadLink.Proofs.Wire.Keys

set_option autoImplicit false

/-! # What decoding keeps

Of the eleven bytes of a block the gamepad keeps everything but the first two bytes, the upper six bits
of the menu byte, and the difference between the bytes that stand for a directional pad at rest: two
blocks show one gamepad just when they are `Alike` in the rest. In the other direction `Block.ofGamepad`
writes a gamepad down as a block. It is read back if the gamepad is `Decodable`, that is, if it has no
bit without a button, one of nine patterns of the directional pad, and axes on the grid of the scale.

Nothing here unfolds the button word: words are compared by their bits (`Gamepad.buttons_ext`), and a
button that a block shows is known from `isDown_gamepad`. -/

namespace PadLink

/-! ## The directional pad -/

namespace Button

/-- The directions of the directional pad, clockwise from up. -/
def compass : List Button := [.dpadUp, .dpadRight, .dpadDown, .dpadLeft]

/-- Every direction with the next one. -/
def neighbours : List (Button × Button) :=
  [(.dpadUp, .dpadRight), (.dpadRight, .dpadDown), (.dpadDown, .dpadLeft), (.dpadLeft, .dpadUp)]

/-- The nine ways to press a directional pad: not at all, in one direction, in two neighbouring ones. -/
def pressings : List (List Button) :=
  [] :: compass.map (fun btn => [btn]) ++ neighbours.map (fun pair => [pair.1, pair.2])

end Button

namespace Block

open Button (compass)

/-- The bytes that are no octant, zero among them. -/
def AtRest (octant : UInt8) : Prop := octant = 0 ∨ 8 < octant

/-- The octant in which just the given directions are pressed, or zero if there is none. -/
def octantOf (pressed : Button → Bool) : UInt8 :=
  ([1, 2, 3, 4, 5, 6, 7, 8].find? fun octant =>
    compass.all fun btn => decide (btn ∈ octantButtons octant) == pressed btn).getD 0

theorem octantOf_congr {pressed other : Button → Bool} (h : ∀ btn ∈ compass, pressed btn = other btn) :
    octantOf pressed = octantOf other := by
  have hup := h .dpadUp (by decide)
  have hright := h .dpadRight (by decide)
  have hdown := h .dpadDown (by decide)
  have hleft := h .dpadLeft (by decide)
  simp only [octantOf, compass, List.all_cons, List.all_nil, hup, hright, hdown, hleft]

/-- An octant is known by its buttons, and all bytes at rest have none. -/
theorem octantOf_octantButtons (octant : UInt8) :
    octantOf (fun btn => decide (btn ∈ octantButtons octant)) = if octant ≤ 8 then octant else 0 := by
  unfold octantButtons
  split
  case h_9 =>
    have hrest : octant = 0 ∨ ¬octant ≤ 8 := by grind
    have hnone : octantOf (fun btn => decide (btn ∈ ([] : List Button))) = 0 := by decide
    rw [hnone]
    rcases hrest with rfl | hover
    · rfl
    · rw [if_neg hover]
  all_goals decide

/-- Two bytes press the same directions just when they are one octant, or both at rest. -/
theorem octantButtons_agree_iff (octant other : UInt8) :
    (∀ btn ∈ compass, (btn ∈ octantButtons octant ↔ btn ∈ octantButtons other))
      ↔ octant = other ∨ AtRest octant ∧ AtRest other := by
  constructor
  · intro h
    have hcode := octantOf_octantButtons octant
    rw [octantOf_congr fun btn hbtn => decide_eq_decide.2 (h btn hbtn),
      octantOf_octantButtons] at hcode
    unfold AtRest
    grind
  · rintro (rfl | ⟨hrest, hother⟩)
    · exact fun _ _ => Iff.rfl
    · have hnone : ∀ octant, AtRest octant → octantButtons octant = [] := by
        intro octant h
        unfold AtRest at h
        unfold octantButtons
        split <;> first | rfl | exact absurd h (by decide)
      rw [hnone octant hrest, hnone other hother]
      exact fun _ _ => Iff.rfl

/-- Every pressing is that of its octant. -/
theorem mem_octantButtons_octantOf {pressed : Button → Bool} {pressing : List Button}
    (hpressing : pressing ∈ Button.pressings)
    (h : ∀ btn ∈ compass, (pressed btn = true ↔ btn ∈ pressing)) :
    ∀ btn ∈ compass, decide (btn ∈ octantButtons (octantOf pressed)) = pressed btn := by
  have heq : ∀ btn ∈ compass, pressed btn = decide (btn ∈ pressing) := by
    intro btn hbtn
    rw [Bool.eq_iff_iff, h btn hbtn, decide_eq_true_iff]
  have hknown : ∀ pressing ∈ Button.pressings, ∀ btn ∈ compass,
      decide (btn ∈ octantButtons (octantOf fun btn => decide (btn ∈ pressing)))
        = decide (btn ∈ pressing) := by decide
  intro btn hbtn
  rw [octantOf_congr heq, heq btn hbtn, hknown pressing hpressing btn hbtn]

/-- Every octant presses its directions in one of the nine ways. -/
theorem exists_pressing (octant : UInt8) :
    ∃ pressing ∈ Button.pressings, ∀ btn, btn ∈ octantButtons octant ↔ btn ∈ pressing := by
  unfold octantButtons
  split <;> exact ⟨_, by decide, fun _ => Iff.rfl⟩

/-! ## Axes -/

theorem scaleAxis_inj {raw other : UInt8} : scaleAxis raw = scaleAxis other ↔ raw = other := by
  refine ⟨fun h => ?_, congrArg scaleAxis⟩
  have hvalue := congrArg Int16.toInt h
  rw [toInt_scaleAxis, toInt_scaleAxis] at hvalue
  exact UInt8.toNat_inj.1 (by omega)

/-- The byte whose axis value is the greatest one not above the given value. -/
def axisByte (value : Int16) : UInt8 := UInt8.ofNat ((value.toInt + 32768) / 257).toNat

/-- A value on the grid of the scale is that of its byte. -/
theorem scaleAxis_axisByte {value : Int16} (h : 257 ∣ value.toInt + 32768) :
    scaleAxis (axisByte value) = value := by
  obtain ⟨step, hstep⟩ := h
  have hlow := value.le_toInt
  have hhigh := value.toInt_lt
  have hbyte : (axisByte value).toNat = step.toNat := by
    rw [axisByte, hstep, Int.mul_ediv_cancel_left _ (by decide), UInt8.toNat_ofNat_of_lt']
    show step.toNat < 256
    omega
  apply Int16.toInt_inj.1
  rw [toInt_scaleAxis, hbyte]
  omega

/-! ## Bits -/

/-- The byte with the given bits, the lowest first. -/
def byteOfBits (b0 b1 b2 b3 b4 b5 b6 b7 : Bool) : UInt8 :=
  .ofBitVec (.ofBoolListLE [b0, b1, b2, b3, b4, b5, b6, b7])

theorem getLsbD_byteOfBits (b0 b1 b2 b3 b4 b5 b6 b7 : Bool) (i : Nat) :
    (byteOfBits b0 b1 b2 b3 b4 b5 b6 b7).toBitVec.getLsbD i
      = [b0, b1, b2, b3, b4, b5, b6, b7].getD i false :=
  BitVec.getLsbD_ofBoolListLE

theorem byte_eq_iff (byte other : UInt8) :
    byte = other ↔ ∀ i < 8, byte.toBitVec.getLsbD i = other.toBitVec.getLsbD i := by
  refine ⟨fun h _ _ => by rw [h], fun h => UInt8.toBitVec_inj.1 ?_⟩
  exact BitVec.eq_of_getLsbD_eq h

/-- The low two bits of a byte. -/
theorem and_three_eq_iff (byte other : UInt8) :
    byte &&& 3 = other &&& 3 ↔ byte.toBitVec.getLsbD 0 = other.toBitVec.getLsbD 0
      ∧ byte.toBitVec.getLsbD 1 = other.toBitVec.getLsbD 1 := by
  have hmask : ∀ i < 8, (3 : UInt8).toBitVec.getLsbD i = decide (i < 2) := by decide
  have hbit : ∀ (byte : UInt8), ∀ i < 8, (byte &&& 3).toBitVec.getLsbD i
      = (byte.toBitVec.getLsbD i && decide (i < 2)) := by
    intro byte i hi
    rw [UInt8.toBitVec_and, BitVec.getLsbD_and, hmask i hi]
  rw [byte_eq_iff]
  constructor
  · intro h
    have hlow := h 0 (by decide)
    have hhigh := h 1 (by decide)
    rw [hbit _ _ (by decide), hbit _ _ (by decide)] at hlow hhigh
    simpa using And.intro hlow hhigh
  · rintro ⟨hlow, hhigh⟩ i hi
    rw [hbit _ i hi, hbit _ i hi]
    by_cases hsmall : i < 2
    · obtain rfl | rfl : i = 0 ∨ i = 1 := by omega
      · rw [hlow]
      · rw [hhigh]
    · simp [hsmall]

end Block

namespace Gamepad

/-- Every bit of a word but two is that of a button. -/
theorem bit_cases {i : Nat} (h : i < 16) : i = 10 ∨ i = 11 ∨ ∃ btn : Button, i = btn.bit := by
  have hplaces : ∀ i : Fin 16, i.val = 10 ∨ i.val = 11 ∨ ∃ btn ∈ Button.all, i.val = btn.bit := by decide
  exact (hplaces ⟨i, h⟩).imp_right (Or.imp_right fun ⟨btn, _, hbtn⟩ => ⟨btn, hbtn⟩)

/-- Words without a bit beside those of the buttons are equal if they have the same buttons. -/
theorem buttons_ext {pad other : Gamepad} (hdown : ∀ btn, pad.isDown btn = other.isDown btn)
    (hguide : pad.buttons &&& 0x0400 = other.buttons &&& 0x0400)
    (hunused : pad.buttons &&& 0x0800 = other.buttons &&& 0x0800) : pad.buttons = other.buttons := by
  refine UInt16.toBitVec_inj.1 (BitVec.eq_of_getLsbD_eq fun i hi => ?_)
  have hbit : ∀ mask : UInt16, mask.toBitVec.getLsbD i = true →
      pad.buttons &&& mask = other.buttons &&& mask →
      pad.buttons.toBitVec.getLsbD i = other.buttons.toBitVec.getLsbD i := by
    intro mask hmask heq
    have := congrArg (fun word : UInt16 => word.toBitVec.getLsbD i) heq
    simpa [hmask] using this
  rcases bit_cases hi with rfl | rfl | ⟨btn, rfl⟩
  · exact hbit 0x0400 (by decide) hguide
  · exact hbit 0x0800 (by decide) hunused
  · exact hdown btn

/-- What a gamepad must be to be shown by a block: no bit is set that belongs to no button, the
    directional pad is pressed in one of its nine ways, and the axes are on the grid of the scale. -/
structure Decodable (pad : Gamepad) : Prop where
  guide : pad.buttons &&& 0x0400 = 0
  unused : pad.buttons &&& 0x0800 = 0
  directions : ∃ pressing ∈ Button.pressings,
    ∀ btn ∈ Button.compass, (pad.isDown btn = true ↔ btn ∈ pressing)
  axes : ∀ side, 257 ∣ (pad.stick side).x.toInt + 32768 ∧ 257 ∣ (pad.stick side).y.toInt + 32768

end Gamepad

namespace Block

/-- The blocks agree in what a gamepad keeps. -/
structure Alike (block other : Block) : Prop where
  face : block.get 2 = other.get 2
  menu : block.get 3 &&& (3 : UInt8) = other.get 3 &&& (3 : UInt8)
  octant : block.get 4 = other.get 4 ∨ AtRest (block.get 4) ∧ AtRest (other.get 4)
  analog : ∀ i, 5 ≤ i → (hi : i < 11) → block[i] = other[i]

theorem shows_eq_iff (block other : Block) :
    (∀ btn, block.shows btn = other.shows btn)
      ↔ block.get 2 = other.get 2 ∧ block.get 3 &&& (3 : UInt8) = other.get 3 &&& (3 : UInt8)
        ∧ (block.get 4 = other.get 4 ∨ AtRest (block.get 4) ∧ AtRest (other.get 4)) := by
  rw [byte_eq_iff, and_three_eq_iff, ← octantButtons_agree_iff]
  constructor
  · intro h
    refine ⟨fun i hi => ?_, ⟨h .start, h .back⟩, fun btn hbtn => ?_⟩
    · match i with
      | 0 => exact h .a
      | 1 => exact h .b
      | 2 => exact h .x
      | 3 => exact h .y
      | 4 => exact h .rightShoulder
      | 5 => exact h .leftShoulder
      | 6 => exact h .leftThumb
      | 7 => exact h .rightThumb
      | i + 8 => omega
    · simp only [Button.compass, List.mem_cons, List.not_mem_nil, or_false] at hbtn
      rcases hbtn with rfl | rfl | rfl | rfl
      · exact decide_eq_decide.1 (h .dpadUp)
      · exact decide_eq_decide.1 (h .dpadRight)
      · exact decide_eq_decide.1 (h .dpadDown)
      · exact decide_eq_decide.1 (h .dpadLeft)
  · rintro ⟨hface, ⟨hstart, hback⟩, hoctant⟩ btn
    cases btn with
    | a => exact hface 0 (by decide)
    | b => exact hface 1 (by decide)
    | x => exact hface 2 (by decide)
    | y => exact hface 3 (by decide)
    | rightShoulder => exact hface 4 (by decide)
    | leftShoulder => exact hface 5 (by decide)
    | leftThumb => exact hface 6 (by decide)
    | rightThumb => exact hface 7 (by decide)
    | start => exact hstart
    | back => exact hback
    | _ => exact decide_eq_decide.2 (hoctant _ (by decide))

/-- Blocks show one gamepad just when they are alike. -/
theorem gamepad_eq_iff (block other : Block) : block.gamepad = other.gamepad ↔ Alike block other := by
  constructor
  · intro h
    have hshows : ∀ btn, block.shows btn = other.shows btn := by
      intro btn
      rw [← isDown_gamepad, h, isDown_gamepad]
    obtain ⟨hface, hmenu, hoctant⟩ := (shows_eq_iff block other).1 hshows
    simp only [gamepad, Gamepad.mk.injEq, Stick.mk.injEq, scaleAxis_inj] at h
    obtain ⟨-, h9, h10, ⟨h5, h6⟩, h7, h8⟩ := h
    refine ⟨hface, hmenu, hoctant, fun i hlow hi => ?_⟩
    match i with
    | 5 => exact h5
    | 6 => exact h6
    | 7 => exact h7
    | 8 => exact h8
    | 9 => exact h9
    | 10 => exact h10
  · rintro ⟨hface, hmenu, hoctant, hanalog⟩
    have hshows := funext ((shows_eq_iff block other).2 ⟨hface, hmenu, hoctant⟩)
    simp only [gamepad, hshows, hanalog 5 (by decide) (by decide), hanalog 6 (by decide) (by decide),
      hanalog 7 (by decide) (by decide), hanalog 8 (by decide) (by decide),
      hanalog 9 (by decide) (by decide), hanalog 10 (by decide) (by decide)]

/-! ## What blocks can show -/

/-- A block with the gamepad on it, as far as that can be. -/
def ofGamepad (pad : Gamepad) : Block :=
  #v[0, 1,
    byteOfBits (pad.isDown .a) (pad.isDown .b) (pad.isDown .x) (pad.isDown .y)
      (pad.isDown .rightShoulder) (pad.isDown .leftShoulder) (pad.isDown .leftThumb)
      (pad.isDown .rightThumb),
    byteOfBits (pad.isDown .start) (pad.isDown .back) false false false false false false,
    octantOf pad.isDown,
    axisByte pad.leftStick.x, axisByte pad.leftStick.y, axisByte pad.rightStick.x,
    axisByte pad.rightStick.y, pad.leftTrigger, pad.rightTrigger]

/-- A decodable gamepad is on its block. -/
theorem gamepad_ofGamepad {pad : Gamepad} (h : pad.Decodable) : (ofGamepad pad).gamepad = pad := by
  obtain ⟨pressing, hpressing, hpad⟩ := h.directions
  have hoctant := mem_octantButtons_octantOf hpressing hpad
  have hshows : ∀ btn, (ofGamepad pad).shows btn = pad.isDown btn := by
    intro btn
    cases btn with
    | dpadUp | dpadRight | dpadDown | dpadLeft => exact hoctant _ (by decide)
    | _ => exact getLsbD_byteOfBits ..
  have hpossible := (ofGamepad pad).possible_gamepad
  have hbuttons : (ofGamepad pad).gamepad.buttons = pad.buttons := by
    refine Gamepad.buttons_ext (fun btn => ?_) ?_ ?_
    · rw [isDown_gamepad, hshows]
    · rw [h.guide]; exact hpossible.guide
    · rw [h.unused]; exact hpossible.unused
  have hleft : 257 ∣ pad.leftStick.x.toInt + 32768 ∧ 257 ∣ pad.leftStick.y.toInt + 32768 := h.axes .left
  have hright : 257 ∣ pad.rightStick.x.toInt + 32768 ∧ 257 ∣ pad.rightStick.y.toInt + 32768 :=
    h.axes .right
  show ({ buttons := (ofGamepad pad).gamepad.buttons, leftTrigger := pad.leftTrigger,
          rightTrigger := pad.rightTrigger,
          leftStick := ⟨scaleAxis (axisByte pad.leftStick.x), scaleAxis (axisByte pad.leftStick.y)⟩,
          rightStick := ⟨scaleAxis (axisByte pad.rightStick.x), scaleAxis (axisByte pad.rightStick.y)⟩ }
        : Gamepad) = pad
  rw [hbuttons, scaleAxis_axisByte hleft.1, scaleAxis_axisByte hleft.2, scaleAxis_axisByte hright.1,
    scaleAxis_axisByte hright.2]

theorem dvd_scaleAxis (raw : UInt8) : 257 ∣ (scaleAxis raw).toInt + 32768 := by
  rw [toInt_scaleAxis]
  exact ⟨raw.toNat, by omega⟩

/-- What a block shows is decodable. -/
theorem decodable_gamepad (block : Block) : block.gamepad.Decodable := by
  have hpossible := block.possible_gamepad
  refine ⟨hpossible.guide, hpossible.unused, ?_, fun side => ?_⟩
  · obtain ⟨pressing, hpressing, hmem⟩ := exists_pressing block[4]
    refine ⟨pressing, hpressing, fun btn hbtn => ?_⟩
    rw [isDown_gamepad, ← hmem]
    simp only [Button.compass, List.mem_cons, List.not_mem_nil, or_false] at hbtn
    rcases hbtn with rfl | rfl | rfl | rfl <;> exact decide_eq_true_iff
  · cases side <;> exact ⟨dvd_scaleAxis _, dvd_scaleAxis _⟩

/-- Two blocks show one gamepad just when they agree on byte 2, on the low two bits of byte 3, on bytes 5
    to 10, and on byte 4 up to the bytes that are no octant; so bytes 0 and 1 never matter. And a gamepad
    is shown by some block just when it has no bit without a button, one of the nine patterns of the
    directional pad, and all its axes on the grid of the scale. -/
theorem decoding_exact :
    (∀ block other : Block, block.gamepad = other.gamepad ↔ Alike block other)
      ∧ (∀ (block : Block) (header flag : UInt8),
        gamepad ((block.set 0 header (by decide)).set 1 flag (by decide)) = block.gamepad)
      ∧ ∀ pad : Gamepad, (∃ block : Block, block.gamepad = pad) ↔ pad.Decodable := by
  refine ⟨gamepad_eq_iff, fun block header flag => ?_, fun pad => ⟨?_, fun h => ?_⟩⟩
  · have hkept : ∀ i, 2 ≤ i → (hi : i < 11) →
        ((block.set 0 header (by decide)).set 1 flag (by decide))[i] = block[i] := by
      intro i hlow hi
      rw [Vector.getElem_set_ne _ _ (by omega), Vector.getElem_set_ne _ _ (by omega)]
    refine (gamepad_eq_iff _ _).2 ⟨hkept 2 (by decide) (by decide), ?_, Or.inl ?_, fun i hlow hi => ?_⟩
    · exact congrArg (fun byte : UInt8 => byte &&& 3) (hkept 3 (by decide) (by decide))
    · exact hkept 4 (by decide) (by decide)
    · exact hkept i (by omega) hi
  · rintro ⟨block, rfl⟩
    exact block.decodable_gamepad
  · exact ⟨ofGamepad pad, gamepad_ofGamepad h⟩

end Block

end PadLink
