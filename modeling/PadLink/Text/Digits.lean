set_option autoImplicit false

/-! # Numbers in digits

Natural numbers are written in a base from 2 to 16 with the digits `0` to `9` and then `a` to `f`,
the most significant digit first and without leading zeros (`Nat.toDigits`). They are read from the
front of a text: `scanNumber?` takes every digit there is, so the rest starts with no digit, and it
refuses if a condition on the digits or a bound on the value is not met. Capital letters count as
digits when read. -/

namespace PadLink.Digits

/-- The value of a digit in a base. -/
def value? (base : Nat) (c : Char) : Option Nat :=
  let value :=
    if '0' ≤ c ∧ c ≤ '9' then c.toNat - '0'.toNat
    else if 'a' ≤ c ∧ c ≤ 'f' then c.toNat - 'a'.toNat + 10
    else if 'A' ≤ c ∧ c ≤ 'F' then c.toNat - 'A'.toNat + 10
    else base
  if value < base then some value else none

/-- Whether the character is a digit in a base. -/
def isDigit (base : Nat) (c : Char) : Bool := (value? base c).isSome

/-- What `Nat.toDigits` writes for a digit is read as that digit. -/
theorem value?_digitChar {base d : Nat} (hd : d < base) (hbase : base ≤ 16) :
    value? base d.digitChar = some d := by
  have lookup : ∀ b : Fin 17, ∀ d : Fin 16, d.val < b.val →
      value? b.val (Nat.digitChar d.val) = some d.val := by decide
  exact lookup ⟨base, by omega⟩ ⟨d, by omega⟩ hd

/-- The decimal text of a number. -/
def decimal (n : Nat) : String := String.ofList (Nat.toDigits 10 n)

/-- The number that a list of digits writes. -/
def ofDigits (base : Nat) (digits : List Char) : Nat :=
  digits.foldl (fun n c => base * n + (value? base c).getD 0) 0

theorem ofDigits_append_singleton (base : Nat) (digits : List Char) (c : Char) :
    ofDigits base (digits ++ [c]) = base * ofDigits base digits + (value? base c).getD 0 := by
  simp [ofDigits]

theorem toDigits_step {base : Nat} (hbase : 1 < base) (n : Nat) (hn : base ≤ n) :
    Nat.toDigits base n = Nat.toDigits base (n / base) ++ [(n % base).digitChar] := by
  have hpos : 0 < n / base := Nat.div_pos hn (by omega)
  have hmod : n % base < base := Nat.mod_lt _ (by omega)
  have h := Nat.toDigits_append_toDigits hbase hpos hmod
  rw [Nat.div_add_mod, Nat.toDigits_of_lt_base hmod] at h
  exact h.symm

/-- A number is read back from its digits. -/
theorem ofDigits_toDigits {base : Nat} (hlow : 1 < base) (hhigh : base ≤ 16) (n : Nat) :
    ofDigits base (Nat.toDigits base n) = n := by
  induction n using Nat.strongRecOn with
  | ind n ih =>
    by_cases hn : n < base
    · rw [Nat.toDigits_of_lt_base hn]
      simp [ofDigits, value?_digitChar hn hhigh]
    · have hn : base ≤ n := Nat.le_of_not_lt hn
      have hmod : n % base < base := Nat.mod_lt _ (by omega)
      rw [toDigits_step hlow n hn, ofDigits_append_singleton,
        ih (n / base) (Nat.div_lt_self (by omega) hlow), value?_digitChar hmod hhigh]
      exact Nat.div_add_mod n base

/-- Everything that is written is a digit. -/
theorem isDigit_of_mem_toDigits {base : Nat} (hlow : 1 < base) (hhigh : base ≤ 16) (n : Nat) :
    ∀ c ∈ Nat.toDigits base n, isDigit base c = true := by
  induction n using Nat.strongRecOn with
  | ind n ih =>
    intro c hc
    by_cases hn : n < base
    · rw [Nat.toDigits_of_lt_base hn, List.mem_singleton] at hc
      rw [hc, isDigit, value?_digitChar hn hhigh]
      rfl
    · have hn : base ≤ n := Nat.le_of_not_lt hn
      have hmod : n % base < base := Nat.mod_lt _ (by omega)
      rw [toDigits_step hlow n hn, List.mem_append, List.mem_singleton] at hc
      rcases hc with hc | hc
      · exact ih (n / base) (Nat.div_lt_self (by omega) hlow) c hc
      · rw [hc, isDigit, value?_digitChar hmod hhigh]
        rfl

/-- Read a number from the front of a text. The digits must meet the condition, there must be at
    least one, and the value must be below the limit. -/
def scanNumber? (base limit : Nat) (accepts : List Char → Bool) (text : List Char) :
    Option (Nat × List Char) :=
  let digits := text.takeWhile (isDigit base)
  let number := ofDigits base digits
  if digits ≠ [] ∧ accepts digits = true ∧ number < limit then
    some (number, text.dropWhile (isDigit base))
  else none

/-- A written number is read back, if no digit follows it. -/
theorem scanNumber?_toDigits {base limit n : Nat} {accepts : List Char → Bool} {rest : List Char}
    (hlow : 1 < base) (hhigh : base ≤ 16) (hn : n < limit)
    (haccepts : accepts (Nat.toDigits base n) = true)
    (hrest : ∀ c ∈ rest.head?, isDigit base c = false) :
    scanNumber? base limit accepts (Nat.toDigits base n ++ rest) = some (n, rest) := by
  have hdigits := isDigit_of_mem_toDigits hlow hhigh n
  have hstop : rest.takeWhile (isDigit base) = [] ∧ rest.dropWhile (isDigit base) = rest := by
    cases rest with
    | nil => exact ⟨rfl, rfl⟩
    | cons c r =>
      have hc := hrest c rfl
      simp [hc]
  have htake : (Nat.toDigits base n ++ rest).takeWhile (isDigit base) = Nat.toDigits base n := by
    rw [List.takeWhile_append_of_pos hdigits, hstop.1, List.append_nil]
  have hdrop : (Nat.toDigits base n ++ rest).dropWhile (isDigit base) = rest := by
    rw [List.dropWhile_append_of_pos hdigits, hstop.2]
  simp only [scanNumber?, htake, hdrop, ofDigits_toDigits hlow hhigh]
  exact if_pos ⟨Nat.toDigits_ne_nil, haccepts, hn⟩

end PadLink.Digits
