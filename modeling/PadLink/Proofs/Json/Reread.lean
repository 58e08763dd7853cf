import PadLink.Json.Printer
import PadLink.Proofs.Json.Grammar

set_option autoImplicit false

/-! # Reading what was written

The text of a value is read back as that value (`parse?_render`), as long as no number in it stands as it
was written: a `real` has any text for a literal, also one that is no number. Such a value is `Exact`.

The printer writes a text of the grammar that spells the value (`Exact.spells`), with the fewest blanks
and escapes there can be; that the reader takes it as this value is then a case of
`parse?_of_spells`. -/

namespace PadLink.Json

/-- A value without a number that stands as it was written. -/
inductive Exact : Json → Prop
  | null : Exact .null
  | bool (value : Bool) : Exact (.bool value)
  | integer (n : Int) : Exact (.integer n)
  | string (s : Option String) : Exact (.string s)
  | array {items : List Json} (h : ∀ item ∈ items, Exact item) : Exact (.array items)
  | object {members : List (Option String × Json)} (h : ∀ m ∈ members, Exact m.2) :
      Exact (.object members)

theorem Exact.text (s : String) : Exact (.text s) := .string (some s)

theorem Exact.nat (n : Nat) : Exact (.nat n) := .integer n

theorem Exact.record {members : List (String × Json)} (h : ∀ m ∈ members, Exact m.2) :
    Exact (.record members) := by
  refine .object fun m hm => ?_
  obtain ⟨member, hmember, rfl⟩ := List.mem_map.1 hm
  exact h member hmember

/-! ## Strings -/

/-- The piece of a string that a character is printed as. -/
def pieceOf (c : Char) : Piece :=
  match escapeLetter? c with
  | some _ => .char c
  | none => if c.toNat < 32 then .unit c.toNat else .char c

/-- A letter behind a backslash is read as the character that it was written for. -/
theorem escaped?_of_escapeLetter? {c letter : Char} (h : escapeLetter? c = some letter) :
    escaped? letter = some c := by
  unfold escapeLetter? at h
  split at h <;> cases h <;> rfl

theorem unit?_hex4 {n : Nat} (hn : n < 65536) :
    ∃ a b c d, hex4 n = [a, b, c, d] ∧ unit? a b c d = some n := by
  have hdigit : ∀ k, Digits.value? 16 (k % 16).digitChar = some (k % 16) := fun k =>
    Digits.value?_digitChar (Nat.mod_lt _ (by decide)) (by decide)
  refine ⟨_, _, _, _, rfl, ?_⟩
  simp only [unit?, hdigit]
  show some _ = some n
  rw [Option.some.injEq]
  omega

theorem spellsPieces_escapeChar (c : Char) {text : List Char} {pieces : List Piece}
    (h : SpellsPieces text pieces) : SpellsPieces (escapeChar c ++ text) (pieceOf c :: pieces) := by
  unfold escapeChar pieceOf
  cases hletter : escapeLetter? c with
  | some letter => exact .letter (escaped?_of_escapeLetter? hletter) h
  | none =>
    dsimp only
    split
    · next hcontrol =>
      obtain ⟨a, b, c', d, hdigits, hunit⟩ := unit?_hex4 (n := c.toNat) (by omega)
      rw [hdigits]
      exact .unit hunit h
    · next hplain =>
      have hquote : c ≠ '"' := by
        rintro rfl
        cases hletter
      have hslash : c ≠ '\\' := by
        rintro rfl
        cases hletter
      exact .char hplain hquote hslash h

theorem spellsPieces_escaped (s : List Char) : SpellsPieces (s.flatMap escapeChar) (s.map pieceOf) := by
  induction s with
  | nil => exact .nil
  | cons c s ih =>
    rw [List.flatMap_cons]
    exact spellsPieces_escapeChar c ih

/-- A control character has a unit that stands for it. -/
theorem joinPieces?_pieceOf_cons (c : Char) (pieces : List Piece) :
    joinPieces? (pieceOf c :: pieces) = (joinPieces? pieces).map (c :: ·) := by
  have hunit (hcontrol : c.toNat < 32) :
      joinPieces? (.unit c.toNat :: pieces) = (joinPieces? pieces).map (c :: ·) := by
    rw [joinPieces?.eq_def]
    simp only [if_pos (Or.inl (show c.toNat < 0xD800 by omega)), Char.ofNat_toNat]
  unfold pieceOf
  split
  · rw [joinPieces?]
  · split
    · next hcontrol => exact hunit hcontrol
    · rw [joinPieces?]

theorem joinPieces?_map_pieceOf (s : List Char) : joinPieces? (s.map pieceOf) = some s := by
  induction s with
  | nil => rfl
  | cons c s ih => rw [List.map_cons, joinPieces?_pieceOf_cons, ih, Option.map_some]

/-- What a string is written as between its quotes. -/
def unquoted : Option String → List Char
  | some s => s.toList.flatMap escapeChar
  | none => '\\' :: 'u' :: hex4 0xD800

theorem quote_eq (s : Option String) : quote s = '"' :: (unquoted s ++ ['"']) := by
  cases s <;> rfl

theorem spellsString_unquoted (s : Option String) : SpellsString (unquoted s) s := by
  cases s with
  | some s =>
    have h := SpellsString.ofPieces (spellsPieces_escaped s.toList)
    rwa [joinPieces?_map_pieceOf, Option.map_some, String.ofList_toList] at h
  | none => exact .ofPieces (.unit (n := 0xD800) (by decide) .nil)

/-! ## Numbers -/

/-- A positive number is written without a leading zero. -/
theorem head?_toDigits {n : Nat} (hn : n ≠ 0) : (Nat.toDigits 10 n).head? ≠ some '0' := by
  induction n using Nat.strongRecOn with
  | ind n ih =>
    by_cases hsmall : n < 10
    · rw [Nat.toDigits_of_lt_base hsmall]
      have hdigit : ∀ d : Fin 10, d.val ≠ 0 → [d.val.digitChar].head? ≠ some '0' := by decide
      exact hdigit ⟨n, hsmall⟩ hn
    · have hrest := ih (n / 10) (Nat.div_lt_self (Nat.pos_of_ne_zero hn) (by decide)) (by omega)
      rw [Digits.toDigits_step (by decide) n (by omega), List.head?_append]
      cases hhead : (Nat.toDigits 10 (n / 10)).head? with
      | none => exact absurd (List.head?_eq_none_iff.1 hhead) Nat.toDigits_ne_nil
      | some c => rwa [hhead] at hrest

/-- The parts of an integer's text. -/
def numeralOf (n : Int) : Numeral := ⟨n < 0, Nat.toDigits 10 n.natAbs, [], []⟩

theorem proper_numeralOf (n : Int) : (numeralOf n).Proper where
  whole :=
    ⟨Nat.toDigits_ne_nil, Digits.isDigit_of_mem_toDigits (by decide : 1 < 10) (by decide) n.natAbs⟩
  lead hlead := by
    by_cases hn : n.natAbs = 0
    · rw [numeralOf, hn]
      rfl
    · exact absurd hlead (head?_toDigits hn)
  fraction := Or.inl rfl
  exponent := Or.inl rfl

theorem text_numeralOf (n : Int) : (numeralOf n).text = integerText n := by
  simp [Numeral.text, Numeral.unsigned, numeralOf, integerText]

theorem value_numeralOf (n : Int) : (numeralOf n).value = .integer n := by
  have hvalue : Digits.ofDigits 10 (Nat.toDigits 10 n.natAbs) = n.natAbs :=
    Digits.ofDigits_toDigits (by decide) (by decide) n.natAbs
  have hzero : ¬((numeralOf n).negative = true ∧ n.natAbs = 0) := by
    rintro ⟨hnegative, hn⟩
    have := of_decide_eq_true hnegative
    omega
  unfold Numeral.value
  rw [show (numeralOf n).whole = Nat.toDigits 10 n.natAbs from rfl, hvalue]
  dsimp only
  rw [if_pos ⟨rfl, rfl, hzero⟩]
  congr 1
  simp only [numeralOf, decide_eq_true_eq]
  split <;> omega

/-! ## Values -/

theorem printItems_eq (item : Json) (items : List Json) :
    print item ++ printItems items = [','].intercalate ((item :: items).map print) ++ [']'] := by
  induction items generalizing item with
  | nil => simp [printItems]
  | cons next items ih =>
    rw [printItems, List.cons_append, ih next]
    simp only [List.map_cons, List.intercalate_cons_cons, List.append_assoc, List.cons_append,
      List.nil_append]

/-- The parts of a member's text. -/
def writtenMember (member : Option String × Json) : WrittenMember :=
  ⟨[], unquoted member.1, [], print member.2, member.1, member.2⟩

theorem source_writtenMember (member : Option String × Json) :
    (writtenMember member).source = quote member.1 ++ ':' :: print member.2 := by
  simp [WrittenMember.source, WrittenMember.behindQuote, writtenMember, quote_eq]

theorem proper_writtenMember (member : Option String × Json) : (writtenMember member).Proper :=
  ⟨nofun, spellsString_unquoted member.1, nofun⟩

theorem printMembers_eq (member : Option String × Json) (members : List (Option String × Json)) :
    quote member.1 ++ ':' :: print member.2 ++ printMembers members
      = [','].intercalate (((member :: members).map writtenMember).map WrittenMember.source) ++ ['}'] := by
  induction members generalizing member with
  | nil => simp [printMembers, source_writtenMember]
  | cons next members ih =>
    rw [printMembers, List.cons_append, List.cons_append, ih next]
    simp only [List.map_cons, List.intercalate_cons_cons, source_writtenMember, List.append_assoc,
      List.cons_append, List.nil_append]

/-- What an exact value is written as is a text of the grammar, and spells the value. -/
theorem Exact.spells {json : Json} (h : Exact json) : Spells (print json) json := by
  induction h with
  | null => rw [print]; exact .null
  | bool value =>
    cases value with
    | true => rw [print]; exact .true
    | false => rw [print]; exact .false
  | integer n =>
    have := Spells.number (proper_numeralOf n)
    rwa [text_numeralOf, value_numeralOf] at this
  | string s =>
    rw [print, quote_eq]
    exact .string (spellsString_unquoted s)
  | @array items _ ih =>
    cases items with
    | nil => rw [print]; exact @Spells.emptyArray [] nofun
    | cons item items =>
      have := @Spells.array ((item :: items).map fun item => (print item, item)) (by simp)
        (List.forall_mem_map.2 ih)
      rw [print, List.cons_append, printItems_eq]
      simpa [Function.comp_def] using this
  | @object members _ ih =>
    cases members with
    | nil => rw [print]; exact @Spells.emptyObject [] nofun
    | cons member members =>
      have := @Spells.object ((member :: members).map writtenMember) (by simp)
        (List.forall_mem_map.2 fun member _ => proper_writtenMember member) (List.forall_mem_map.2 ih)
      rw [print, List.cons_append, List.cons_append, printMembers_eq]
      simpa [Function.comp_def, writtenMember] using this

/-- Reading the text of an exact value gives the value. -/
theorem parse?_render {json : Json} (h : Exact json) : parse? json.render = some json := by
  refine parse?_of_spells ?_
  rw [render, String.toList_ofList]
  exact h.spells

end PadLink.Json
