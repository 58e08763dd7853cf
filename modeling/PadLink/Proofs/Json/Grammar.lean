import PadLink.Json.Reader

set_option autoImplicit false

/-! # The grammar of JSON texts

`Spells text json` says that a text is a JSON text, and which value it is: the grammar with all its
freedom, that is, blanks around every part, escapes of every kind, numbers with fractions and exponents,
and nesting to any depth. The reader takes every text of the grammar as the value that it spells
(`parse?_of_spells`).

A value in the middle of a text is read off the front of it, so what is shown by induction on the grammar
is `Scanned`: the reader takes the value's own text, if it has fuel for twice the length of that. It may
leave blanks that were spelled behind the value. A number has no end of its own, so what follows must not
read on as a number (`Delimited`). -/

namespace PadLink.Json

/-! ## The grammar -/

/-- Nothing but blanks. -/
def Blanks (text : List Char) : Prop := ∀ c ∈ text, isBlank c = true

instance (text : List Char) : Decidable (Blanks text) :=
  List.decidableBAll (fun c => isBlank c = true) text

/-- One or more decimal digits. -/
structure IsDigits (text : List Char) : Prop where
  nonempty : text ≠ []
  digit : ∀ c ∈ text, Digits.isDigit 10 c = true

/-- The parts of a number: its sign, and the texts of its whole part, its fraction and its exponent. -/
structure Numeral where
  negative : Bool
  whole : List Char
  fraction : List Char
  exponent : List Char

namespace Numeral

/-- The parts are as the grammar wants them: no leading zero, and no fraction or exponent without a
    digit. -/
structure Proper (numeral : Numeral) : Prop where
  whole : IsDigits numeral.whole
  lead : numeral.whole.head? = some '0' → numeral.whole = ['0']
  fraction : numeral.fraction = [] ∨ ∃ digits, IsDigits digits ∧ numeral.fraction = '.' :: digits
  exponent : numeral.exponent = [] ∨ ∃ mark sign digits, (mark = 'e' ∨ mark = 'E')
    ∧ sign ∈ [[], ['+'], ['-']] ∧ IsDigits digits ∧ numeral.exponent = mark :: (sign ++ digits)

/-- The text behind the sign. -/
def unsigned (numeral : Numeral) : List Char :=
  numeral.whole ++ (numeral.fraction ++ numeral.exponent)

/-- The text of a number. -/
def text (numeral : Numeral) : List Char :=
  if numeral.negative then '-' :: numeral.unsigned else numeral.unsigned

/-- The value of a number. Only a plain integer counts as one, and `-0` is none. -/
def value (numeral : Numeral) : Json :=
  let magnitude := Digits.ofDigits 10 numeral.whole
  if numeral.fraction = [] ∧ numeral.exponent = [] ∧ ¬(numeral.negative = true ∧ magnitude = 0) then
    .integer (if numeral.negative then -(magnitude : Int) else magnitude)
  else .real (String.ofList numeral.text)

end Numeral

/-- The pieces that a text between two quotes is made of: characters as they stand, letters behind a
    backslash, and sixteen-bit units in hexadecimal. -/
inductive SpellsPieces : List Char → List Piece → Prop
  | nil : SpellsPieces [] []
  | char {c : Char} {text : List Char} {pieces : List Piece} (hcontrol : ¬c.toNat < 32)
      (hquote : c ≠ '"') (hslash : c ≠ '\\') (h : SpellsPieces text pieces) :
      SpellsPieces (c :: text) (.char c :: pieces)
  | letter {letter c : Char} {text : List Char} {pieces : List Piece} (hletter : escaped? letter = some c)
      (h : SpellsPieces text pieces) : SpellsPieces ('\\' :: letter :: text) (.char c :: pieces)
  | unit {a b c d : Char} {n : Nat} {text : List Char} {pieces : List Piece} (hunit : unit? a b c d = some n)
      (h : SpellsPieces text pieces) :
      SpellsPieces ('\\' :: 'u' :: a :: b :: c :: d :: text) (.unit n :: pieces)

/-- The string that a text between two quotes is. It has no text if it escapes half of a pair. -/
inductive SpellsString : List Char → Option String → Prop
  | ofPieces {text : List Char} {pieces : List Piece} (h : SpellsPieces text pieces) :
      SpellsString text ((joinPieces? pieces).map String.ofList)

/-- A member of an object as it stands in a text: its name between quotes, with blanks in front and
    behind, and the text of its value. -/
structure WrittenMember where
  before : List Char
  name : List Char
  after : List Char
  text : List Char
  key : Option String
  value : Json

namespace WrittenMember

/-- The name is a string, and there is nothing but blanks around it. -/
structure Proper (member : WrittenMember) : Prop where
  before : Blanks member.before
  name : SpellsString member.name member.key
  after : Blanks member.after

/-- The text of a member behind the opening quote of its name. -/
def behindQuote (member : WrittenMember) : List Char :=
  member.name ++ '"' :: (member.after ++ ':' :: member.text)

/-- The text of a member. -/
def source (member : WrittenMember) : List Char := member.before ++ '"' :: member.behindQuote

end WrittenMember

/-- The text is a JSON text, perhaps with blanks around it, and this is its value. -/
inductive Spells : List Char → Json → Prop
  | null : Spells ['n', 'u', 'l', 'l'] .null
  | true : Spells ['t', 'r', 'u', 'e'] (.bool true)
  | false : Spells ['f', 'a', 'l', 's', 'e'] (.bool false)
  | number {numeral : Numeral} (h : numeral.Proper) : Spells numeral.text numeral.value
  | string {text : List Char} {s : Option String} (h : SpellsString text s) :
      Spells ('"' :: (text ++ ['"'])) (.string s)
  | emptyArray {blanks : List Char} (h : Blanks blanks) : Spells ('[' :: (blanks ++ [']'])) (.array [])
  | array {items : List (List Char × Json)} (hne : items ≠ []) (h : ∀ item ∈ items, Spells item.1 item.2) :
      Spells ('[' :: ([','].intercalate (items.map Prod.fst) ++ [']'])) (.array (items.map Prod.snd))
  | emptyObject {blanks : List Char} (h : Blanks blanks) :
      Spells ('\x7b' :: (blanks ++ ['\x7d'])) (.object [])
  | object {members : List WrittenMember} (hne : members ≠ [])
      (hproper : ∀ member ∈ members, member.Proper)
      (h : ∀ member ∈ members, Spells member.text member.value) :
      Spells ('\x7b' :: ([','].intercalate (members.map WrittenMember.source) ++ ['\x7d']))
        (.object (members.map fun member => (member.key, member.value)))
  | padded {before text after : List Char} {json : Json} (hbefore : Blanks before) (hafter : Blanks after)
      (h : Spells text json) : Spells (before ++ (text ++ after)) json

/-! ## Blanks -/

theorem skipBlanks_append {blanks : List Char} (h : Blanks blanks) (text : List Char) :
    skipBlanks (blanks ++ text) = skipBlanks text :=
  List.dropWhile_append_of_pos h

theorem skipBlanks_cons {c : Char} (h : isBlank c = false) (text : List Char) :
    skipBlanks (c :: text) = c :: text := by
  rw [skipBlanks, List.dropWhile_cons_of_neg (by simp [h])]

/-- Blanks in front of a value make no difference. -/
theorem scanValue?_congr {text other : List Char} (h : skipBlanks text = skipBlanks other) (fuel : Nat) :
    scanValue? fuel text = scanValue? fuel other := by
  cases fuel with
  | zero => rfl
  | succ fuel => rw [scanValue?, scanValue?, h]

theorem scanMembers?_congr {text other : List Char} (h : skipBlanks text = skipBlanks other)
    (fuel : Nat) : scanMembers? fuel text = scanMembers? fuel other := by
  cases fuel with
  | zero => rfl
  | succ fuel => rw [scanMembers?, scanMembers?, h]

/-! ## Strings -/

theorem scanPieces?_of_spells {text : List Char} {pieces : List Piece} (h : SpellsPieces text pieces)
    (rest : List Char) : scanPieces? (text ++ '"' :: rest) = some (pieces, rest) := by
  induction h with
  | nil => rfl
  | char hcontrol hquote hslash _ ih =>
    rw [List.cons_append, scanPieces?.eq_def]
    simp [hslash, hcontrol, ih]
  | @letter letter c text pieces hletter _ ih =>
    have hunit : letter ≠ 'u' := by
      rintro rfl
      cases hletter
    rw [List.cons_append, List.cons_append, scanPieces?.eq_def]
    simp [hunit, hletter, ih]
  | unit hunit _ ih => simp [scanPieces?, hunit, ih]

/-- A string is read behind its opening quote, up to the closing one. -/
theorem scanString?_of_spells {text : List Char} {s : Option String} (h : SpellsString text s)
    (rest : List Char) : scanString? (text ++ '"' :: rest) = some (s, rest) := by
  obtain ⟨hpieces⟩ := h
  rw [scanString?, scanPieces?_of_spells hpieces, Option.map_some]

/-! ## Numbers -/

/-- The text does not read on as a number. -/
def Delimited (rest : List Char) : Prop :=
  ∀ c ∈ rest.head?, Digits.isDigit 10 c = false ∧ c ≠ '.' ∧ c ≠ 'e' ∧ c ≠ 'E'

theorem delimited_nil : Delimited [] := nofun

theorem delimited_cons {c : Char} (h : c = ',' ∨ c = ']' ∨ c = '\x7d') (rest : List Char) :
    Delimited (c :: rest) := by
  intro d hd
  obtain rfl := Option.some.inj hd
  rcases h with rfl | rfl | rfl <;> decide

/-- A number also ends where blanks begin. -/
theorem Delimited.append {blanks rest : List Char} (h : Delimited rest) (hblanks : Blanks blanks) :
    Delimited (blanks ++ rest) := by
  cases blanks with
  | nil => exact h
  | cons c blanks =>
    intro d hd
    obtain rfl := Option.some.inj hd
    have hblank := hblanks c List.mem_cons_self
    simp only [isBlank, Bool.or_eq_true, beq_iff_eq] at hblank
    rcases hblank with ((rfl | rfl) | rfl) | rfl <;> decide

/-- The digits in front are taken off, if no digit follows them. -/
theorem spanDigits_append {digits rest : List Char} (hdigits : ∀ c ∈ digits, Digits.isDigit 10 c = true)
    (hrest : ∀ c ∈ rest.head?, Digits.isDigit 10 c = false) :
    spanDigits (digits ++ rest) = (digits, rest) := by
  have hstop : rest.takeWhile (Digits.isDigit 10) = [] ∧ rest.dropWhile (Digits.isDigit 10) = rest := by
    cases rest with
    | nil => exact ⟨rfl, rfl⟩
    | cons c rest => simp [hrest c rfl]
  rw [spanDigits, List.takeWhile_append_of_pos hdigits, List.dropWhile_append_of_pos hdigits,
    hstop.1, hstop.2, List.append_nil]

namespace Numeral

variable {numeral : Numeral} (h : numeral.Proper) {rest : List Char} (hrest : Delimited rest)

include h hrest

theorem scanExponent?_append :
    scanExponent? (numeral.exponent ++ rest) = some (numeral.exponent, rest) := by
  obtain hnone | ⟨mark, sign, digits, hmark, hsign, hdigits, heq⟩ := h.exponent
  · rw [hnone, List.nil_append]
    cases rest with
    | nil => rfl
    | cons c rest =>
      obtain ⟨-, -, hsmall, hcapital⟩ := hrest c rfl
      simp [scanExponent?, hsmall, hcapital]
  · have hspan := spanDigits_append hdigits.digit fun c hc => (hrest c hc).1
    obtain ⟨d, more, rfl⟩ := List.exists_cons_of_ne_nil hdigits.nonempty
    have hdigit : d ≠ '+' ∧ d ≠ '-' := by
      have := hdigits.digit d List.mem_cons_self
      constructor <;> rintro rfl <;> exact absurd this (by decide)
    rw [List.cons_append] at hspan
    rw [heq]
    simp only [List.mem_cons, List.not_mem_nil, or_false] at hsign
    rcases hsign with rfl | rfl | rfl <;>
      simp [scanExponent?, hmark, hspan, hdigit]

/-- Nothing that can follow the whole part is a digit. -/
theorem not_isDigit_exponent :
    ∀ c ∈ (numeral.exponent ++ rest).head?, Digits.isDigit 10 c = false ∧ c ≠ '.' := by
  obtain hnone | ⟨mark, sign, digits, hmark, -, -, heq⟩ := h.exponent
  · rw [hnone, List.nil_append]
    exact fun c hc => ⟨(hrest c hc).1, (hrest c hc).2.1⟩
  · rw [heq]
    intro c hc
    obtain rfl := Option.some.inj hc
    rcases hmark with rfl | rfl <;> decide

theorem scanFraction?_append : scanFraction? (numeral.fraction ++ (numeral.exponent ++ rest))
    = some (numeral.fraction, numeral.exponent ++ rest) := by
  have hstop := not_isDigit_exponent h hrest
  generalize numeral.exponent ++ rest = behind at hstop ⊢
  obtain hnone | ⟨digits, hdigits, heq⟩ := h.fraction
  · rw [hnone, List.nil_append]
    cases behind with
    | nil => rfl
    | cons c behind => simp [scanFraction?, (hstop c rfl).2]
  · have hspan := spanDigits_append hdigits.digit fun c hc => (hstop c hc).1
    obtain ⟨d, more, rfl⟩ := List.exists_cons_of_ne_nil hdigits.nonempty
    rw [List.cons_append] at hspan
    simp [heq, scanFraction?, hspan]

theorem scanWhole?_append :
    scanWhole? (numeral.whole ++ (numeral.fraction ++ (numeral.exponent ++ rest)))
      = some (numeral.whole, numeral.fraction ++ (numeral.exponent ++ rest)) := by
  have hstop : ∀ c ∈ (numeral.fraction ++ (numeral.exponent ++ rest)).head?,
      Digits.isDigit 10 c = false := by
    obtain hnone | ⟨digits, -, heq⟩ := h.fraction
    · rw [hnone]
      exact fun c hc => (not_isDigit_exponent h hrest c hc).1
    · rw [heq]
      intro c hc
      obtain rfl := Option.some.inj hc
      decide
  generalize numeral.fraction ++ (numeral.exponent ++ rest) = behind at hstop ⊢
  have hspan := spanDigits_append h.whole.digit hstop
  obtain ⟨d, more, hwhole⟩ := List.exists_cons_of_ne_nil h.whole.nonempty
  by_cases hzero : d = '0'
  · have hone := h.lead (by rw [hwhole, hzero]; rfl)
    rw [hone]
    rfl
  · rw [hwhole, List.cons_append] at hspan ⊢
    simp [scanWhole?, hzero, hspan]

theorem scanNumber?_append : scanNumber? (numeral.text ++ rest) = some (numeral.value, rest) := by
  have hunsigned : ∀ negative, numeral.negative = negative →
      scanUnsigned? negative (numeral.unsigned ++ rest) = some (numeral.value, rest) := by
    rintro negative rfl
    unfold scanUnsigned? unsigned
    rw [List.append_assoc, List.append_assoc]
    simp only [scanWhole?_append h hrest, scanFraction?_append h hrest, scanExponent?_append h hrest,
      Option.bind_eq_bind, Option.bind_some, value]
    split
    · rfl
    · cases hnegative : numeral.negative <;> simp [text, unsigned, hnegative]
  unfold text
  split
  · next hnegative => exact hunsigned true hnegative
  · next hpositive =>
    have hscan := hunsigned false (Bool.eq_false_iff.2 hpositive)
    obtain ⟨d, more, hwhole⟩ := List.exists_cons_of_ne_nil h.whole.nonempty
    have hsign : d ≠ '-' := by
      rintro rfl
      have := h.whole.digit '-' (by rw [hwhole]; exact List.mem_cons_self)
      exact absurd this (by decide)
    rw [unsigned, hwhole] at hscan ⊢
    rw [scanNumber?.eq_def]
    simpa [hsign] using hscan

omit hrest in
/-- The first character of a number is a digit or the sign. -/
theorem exists_text : ∃ c text, numeral.text = c :: text ∧ (c = '-' ∨ Digits.isDigit 10 c = true) := by
  unfold text
  split
  · exact ⟨_, _, rfl, Or.inl rfl⟩
  · obtain ⟨d, more, hwhole⟩ := List.exists_cons_of_ne_nil h.whole.nonempty
    refine ⟨d, more ++ (numeral.fraction ++ numeral.exponent), by rw [unsigned, hwhole]; rfl, Or.inr ?_⟩
    exact h.whole.digit d (by rw [hwhole]; exact List.mem_cons_self)

end Numeral

/-! ## Values -/

/-- The reader takes the text off the front of whatever it is the beginning of, and leaves at most blanks
    of it. -/
def Scanned (text : List Char) (json : Json) : Prop :=
  ∀ fuel rest, Delimited rest → 2 * text.length ≤ fuel →
    ∃ left, scanValue? fuel (text ++ rest) = some (json, left) ∧ skipBlanks left = skipBlanks rest

/-- A value that begins with a character of its own is read in one step. -/
theorem scanned_of_step {text : List Char} {json : Json} (hne : text ≠ [])
    (h : ∀ fuel rest, Delimited rest → 2 * text.length ≤ fuel + 1 →
      scanValue? (fuel + 1) (text ++ rest) = some (json, rest)) : Scanned text json := by
  intro fuel rest hrest hfuel
  have hpos := List.length_pos_iff.2 hne
  obtain ⟨fuel, rfl⟩ := Nat.exists_eq_add_one_of_ne_zero (show fuel ≠ 0 by omega)
  exact ⟨rest, h fuel rest hrest hfuel, rfl⟩

theorem Numeral.scanned {numeral : Numeral} (h : numeral.Proper) :
    Scanned numeral.text numeral.value := by
  obtain ⟨c, text, htext, hc⟩ := Numeral.exists_text h
  refine scanned_of_step (by rw [htext]; exact List.cons_ne_nil _ _) fun fuel rest hrest _ => ?_
  have hscan := Numeral.scanNumber?_append h hrest
  rw [htext] at hscan ⊢
  -- Neither a blank nor the beginning of another kind of value is a digit or a sign.
  have hother : ∀ d ∈ [' ', '\t', '\n', '\r', 'n', 't', 'f', '"', '[', '\x7b'], c ≠ d := by
    rintro d hd rfl
    simp only [List.mem_cons, List.not_mem_nil, or_false] at hd
    rcases hd with rfl | rfl | rfl | rfl | rfl | rfl | rfl | rfl | rfl | rfl <;>
      exact absurd hc (by decide)
  have hblank : isBlank c = false := by simp [isBlank, hother]
  rw [scanValue?, List.cons_append, skipBlanks_cons hblank]
  split
  case h_7 => exact hscan
  all_goals next heq => exact absurd (List.cons.inj heq).1 (hother _ (by simp))

theorem SpellsString.scanned {text : List Char} {s : Option String} (h : SpellsString text s) :
    Scanned ('"' :: (text ++ ['"'])) (.string s) := by
  refine scanned_of_step (List.cons_ne_nil _ _) fun fuel rest _ _ => ?_
  rw [List.cons_append, List.append_assoc, List.singleton_append, scanValue?,
    skipBlanks_cons (by decide)]
  simp only [scanString?_of_spells h, Option.map_some]

theorem Scanned.padded {before text after : List Char} {json : Json} (hbefore : Blanks before)
    (hafter : Blanks after) (h : Scanned text json) : Scanned (before ++ (text ++ after)) json := by
  intro fuel rest hrest hfuel
  simp only [List.length_append] at hfuel
  obtain ⟨left, hscan, hleft⟩ := h fuel (after ++ rest) (hrest.append hafter) (by omega)
  refine ⟨left, ?_, hleft.trans (skipBlanks_append hafter rest)⟩
  rw [List.append_assoc, List.append_assoc, scanValue?_congr (skipBlanks_append hbefore _), hscan]

/-! ## Arrays -/

/-- No value begins with a closing bracket. -/
theorem scanValue?_of_bracket {text rest : List Char} (h : skipBlanks text = ']' :: rest)
    (fuel : Nat) : scanValue? fuel text = none := by
  cases fuel with
  | zero => rfl
  | succ fuel =>
    rw [scanValue?, h]
    rfl

/-- An array that is not empty is read item by item. -/
theorem scanValue?_array {text : List Char} {fuel : Nat} (h : ∀ rest, skipBlanks text ≠ ']' :: rest) :
    scanValue? (fuel + 1) ('[' :: text)
      = (scanItems? fuel text).map fun found => (.array found.1, found.2) := by
  unfold scanValue?
  dsimp only
  rw [skipBlanks_cons (by decide)]
  -- Of what may follow the bracket, the hypothesis leaves the items only.
  simp only

/-- Items with commas between them are read up to the closing bracket. -/
theorem scanItems?_of_scanned {item : List Char × Json} {items : List (List Char × Json)}
    (h : ∀ other ∈ item :: items, Scanned other.1 other.2) {fuel : Nat}
    (hfuel : 2 * ([','].intercalate ((item :: items).map Prod.fst)).length + 2 ≤ fuel)
    (rest : List Char) :
    scanItems? fuel ([','].intercalate ((item :: items).map Prod.fst) ++ ']' :: rest)
      = some ((item :: items).map Prod.snd, rest) := by
  induction items generalizing item fuel with
  | nil =>
    rw [List.map_singleton, List.intercalate_singleton] at hfuel ⊢
    obtain ⟨fuel, rfl⟩ := Nat.exists_eq_add_one_of_ne_zero (show fuel ≠ 0 by omega)
    obtain ⟨left, hscan, hleft⟩ := h item List.mem_cons_self fuel (']' :: rest)
      (delimited_cons (Or.inr (Or.inl rfl)) _) (by omega)
    rw [skipBlanks_cons (by decide)] at hleft
    rw [scanItems?, hscan]
    simp only [hleft, List.map_singleton]
  | cons next items ih =>
    rw [List.map_cons, List.map_cons, List.intercalate_cons_cons, ← List.map_cons] at hfuel ⊢
    simp only [List.length_append, List.length_singleton] at hfuel
    obtain ⟨fuel, rfl⟩ := Nat.exists_eq_add_one_of_ne_zero (show fuel ≠ 0 by omega)
    obtain ⟨left, hscan, hleft⟩ := h item List.mem_cons_self fuel
      (',' :: ([','].intercalate ((next :: items).map Prod.fst) ++ ']' :: rest))
      (delimited_cons (Or.inl rfl) _) (by omega)
    rw [skipBlanks_cons (by decide)] at hleft
    have hrest := @ih next (fun other hother => h other (List.mem_cons_of_mem _ hother)) fuel
      (by omega)
    rw [List.append_assoc, List.append_assoc, List.singleton_append, scanItems?, hscan]
    simp only [hleft]
    rw [hrest]
    rfl

theorem scanned_array {items : List (List Char × Json)} (hne : items ≠ [])
    (h : ∀ item ∈ items, Scanned item.1 item.2) :
    Scanned ('[' :: ([','].intercalate (items.map Prod.fst) ++ [']'])) (.array (items.map Prod.snd)) := by
  refine scanned_of_step (List.cons_ne_nil _ _) fun fuel rest hrest hfuel => ?_
  obtain ⟨item, items, rfl⟩ := List.exists_cons_of_ne_nil hne
  simp only [List.length_cons, List.length_append, List.length_nil] at hfuel
  have hitems := @scanItems?_of_scanned item items h fuel (by omega) rest
  rw [List.cons_append, List.append_assoc, List.singleton_append, scanValue?_array, hitems,
    Option.map_some]
  -- A closing bracket in front would be no item.
  intro behind heq
  cases fuel with
  | zero => cases hitems
  | succ fuel =>
    rw [scanItems?, scanValue?_of_bracket heq] at hitems
    cases hitems

/-! ## Objects -/

/-- An object that is not empty is read member by member. -/
theorem scanValue?_object {text : List Char} {fuel : Nat}
    (h : ∀ rest, skipBlanks text ≠ '\x7d' :: rest) :
    scanValue? (fuel + 1) ('\x7b' :: text)
      = (scanMembers? fuel text).map fun found => (.object found.1, found.2) := by
  unfold scanValue?
  dsimp only
  rw [skipBlanks_cons (by decide)]
  simp only

/-- The name of a member is read, and then its value. -/
theorem scanMembers?_source {member : WrittenMember} (hproper : member.Proper)
    (h : Scanned member.text member.value) {fuel : Nat} (hfuel : 2 * member.source.length ≤ fuel)
    {c : Char} (hc : c = ',' ∨ c = '\x7d') (rest : List Char) :
    scanMembers? (fuel + 1) (member.source ++ c :: rest) = match c :: rest with
      | '\x7d' :: rest => some ([(member.key, member.value)], rest)
      | ',' :: rest => (scanMembers? fuel rest).map fun found =>
        ((member.key, member.value) :: found.1, found.2)
      | _ => none := by
  have hblank : isBlank c = false := by rcases hc with rfl | rfl <;> decide
  simp only [WrittenMember.source, WrittenMember.behindQuote, List.length_append, List.length_cons] at hfuel
  obtain ⟨left, hscan, hleft⟩ := h fuel (c :: rest) (delimited_cons (hc.imp_right Or.inr) rest) (by omega)
  rw [skipBlanks_cons hblank] at hleft
  have hcolon : skipBlanks (member.after ++ ':' :: (member.text ++ c :: rest))
      = ':' :: (member.text ++ c :: rest) := by
    rw [skipBlanks_append hproper.after, skipBlanks_cons (by decide)]
  have hsource : member.source ++ c :: rest = member.before
      ++ '"' :: (member.name ++ '"' :: (member.after ++ ':' :: (member.text ++ c :: rest))) := by
    simp [WrittenMember.source, WrittenMember.behindQuote]
  rw [hsource, scanMembers?_congr (skipBlanks_append hproper.before _), scanMembers?,
    skipBlanks_cons (by decide)]
  rcases hc with rfl | rfl <;>
    simp only [scanString?_of_spells hproper.name, hcolon, hscan, hleft]

/-- Members with commas between them are read up to the closing brace. -/
theorem scanMembers?_of_scanned {member : WrittenMember} {members : List WrittenMember}
    (hproper : ∀ other ∈ member :: members, other.Proper)
    (h : ∀ other ∈ member :: members, Scanned other.text other.value) {fuel : Nat}
    (hfuel : 2 * ([','].intercalate ((member :: members).map WrittenMember.source)).length + 2 ≤ fuel)
    (rest : List Char) :
    scanMembers? fuel ([','].intercalate ((member :: members).map WrittenMember.source) ++ '\x7d' :: rest)
      = some ((member :: members).map fun other => (other.key, other.value), rest) := by
  induction members generalizing member fuel with
  | nil =>
    rw [List.map_singleton, List.intercalate_singleton] at hfuel ⊢
    obtain ⟨fuel, rfl⟩ := Nat.exists_eq_add_one_of_ne_zero (show fuel ≠ 0 by omega)
    rw [scanMembers?_source (hproper member List.mem_cons_self) (h member List.mem_cons_self)
      (by omega) (Or.inr rfl)]
    rfl
  | cons next members ih =>
    rw [List.map_cons, List.map_cons, List.intercalate_cons_cons, ← List.map_cons] at hfuel ⊢
    simp only [List.length_append, List.length_singleton] at hfuel
    obtain ⟨fuel, rfl⟩ := Nat.exists_eq_add_one_of_ne_zero (show fuel ≠ 0 by omega)
    have hbehind : ∀ other ∈ next :: members, other ∈ member :: next :: members :=
      fun other => List.mem_cons_of_mem _
    have hrest := @ih next (fun other hother => hproper other (hbehind other hother))
      (fun other hother => h other (hbehind other hother)) fuel (by omega)
    rw [List.append_assoc, List.append_assoc, List.singleton_append,
      scanMembers?_source (hproper member List.mem_cons_self) (h member List.mem_cons_self)
        (by omega) (Or.inl rfl)]
    show (scanMembers? fuel _).map _ = _
    rw [hrest]
    rfl

theorem scanned_object {members : List WrittenMember} (hne : members ≠ [])
    (hproper : ∀ member ∈ members, member.Proper)
    (h : ∀ member ∈ members, Scanned member.text member.value) :
    Scanned ('\x7b' :: ([','].intercalate (members.map WrittenMember.source) ++ ['\x7d']))
      (.object (members.map fun member => (member.key, member.value))) := by
  refine scanned_of_step (List.cons_ne_nil _ _) fun fuel rest hrest hfuel => ?_
  obtain ⟨member, members, rfl⟩ := List.exists_cons_of_ne_nil hne
  simp only [List.length_cons, List.length_append, List.length_nil] at hfuel
  have hmembers := @scanMembers?_of_scanned member members hproper h fuel (by omega) rest
  rw [List.cons_append, List.append_assoc, List.singleton_append, scanValue?_object, hmembers,
    Option.map_some]
  -- A closing brace in front would be no member.
  intro behind heq
  cases fuel with
  | zero => cases hmembers
  | succ fuel =>
    rw [scanMembers?, heq] at hmembers
    cases hmembers

/-! ## Texts -/

/-- The text of a value is read off the front of whatever it is the beginning of. -/
theorem Spells.scanned {text : List Char} {json : Json} (h : Spells text json) : Scanned text json := by
  induction h with
  | null => exact scanned_of_step (by decide) fun _ _ _ _ => rfl
  | true => exact scanned_of_step (by decide) fun _ _ _ _ => rfl
  | false => exact scanned_of_step (by decide) fun _ _ _ _ => rfl
  | number h => exact Numeral.scanned h
  | string h => exact h.scanned
  | emptyArray h =>
    refine scanned_of_step (List.cons_ne_nil _ _) fun fuel rest _ _ => ?_
    simp [scanValue?, skipBlanks_cons, skipBlanks_append h, isBlank]
  | array hne _ ih => exact scanned_array hne ih
  | emptyObject h =>
    refine scanned_of_step (List.cons_ne_nil _ _) fun fuel rest _ _ => ?_
    simp [scanValue?, skipBlanks_cons, skipBlanks_append h, isBlank]
  | object hne hproper _ ih => exact scanned_object hne hproper ih
  | padded hbefore hafter _ ih => exact ih.padded hbefore hafter

/-- A text of the grammar is read as the value that it spells. -/
theorem parse?_of_spells {text : String} {json : Json} (h : Spells text.toList json) :
    parse? text = some json := by
  obtain ⟨left, hscan, hleft⟩ := h.scanned (2 * text.toList.length + 2) [] delimited_nil (by omega)
  rw [List.append_nil] at hscan
  rw [parse?, hscan]
  exact if_pos hleft

end PadLink.Json
