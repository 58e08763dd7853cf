import PadLink.Text.Digits

set_option autoImplicit false

/-! # JSON values

A JSON value keeps what a text said: the order of an object's members and their repetitions, and
whether a number was written as a plain integer. Two things have no value of their own and are kept
as written or marked: a number with a fraction, an exponent or the form `-0` is a `real` with its
literal, and a string that escapes half of a surrogate pair has no text.

A record is an object with named members, or an array with the members' values in order. Reading a
record (`Json.fields?`) gives what was said for each name; names that the record does not know are
passed over, whatever their value. -/

namespace PadLink

/-- A JSON value. -/
inductive Json where
  | null
  | bool (value : Bool)
  | integer (value : Int)
  | real (literal : String)
  | string (text : Option String)
  | array (items : List Json)
  | object (members : List (Option String × Json))
  deriving Repr

namespace Json

/-! ## Building -/

/-- A string value. -/
def text (s : String) : Json := .string (some s)

/-- A natural number. -/
def nat (n : Nat) : Json := .integer n

/-- An object with the given members. -/
def record (members : List (String × Json)) : Json :=
  .object (members.map fun m => (some m.1, m.2))

/-! ## Reading -/

/-- The text of a string that has one. -/
def text? : Json → Option String
  | .string text => text
  | _ => none

/-- The truth value. -/
def bool? : Json → Option Bool
  | .bool value => some value
  | _ => none

/-- The natural number below the limit that was written as a plain integer. -/
def nat? (limit : Nat) : Json → Option Nat
  | .integer (.ofNat n) => if n < limit then some n else none
  | _ => none

/-- The items of an array. -/
def items? : Json → Option (List Json)
  | .array items => some items
  | _ => none

/-- What an object says under one name, in the order of the text. -/
def valuesOf (name : String) (members : List (Option String × Json)) : List Json :=
  members.filterMap fun m => if m.1 = some name then some m.2 else none

/-- The first value that an object has under the name. -/
def get? (name : String) : Json → Option Json
  | .object members => (valuesOf name members).head?
  | _ => none

/-- What a record says for each of its names, in the order of the names. An array must not be longer
    than the names. An object must have text for every key, and no name twice. -/
def fields? (names : List String) : Json → Option (List (Option Json))
  | .array items =>
    if items.length ≤ names.length then
      some (items.map some ++ List.replicate (names.length - items.length) none)
    else none
  | .object members =>
    if (members.all fun m => m.1.isSome)
        ∧ (names.all fun name => (valuesOf name members).length ≤ 1) then
      some (names.map fun name => (valuesOf name members).head?)
    else none
  | _ => none

/-- A record whose members are the names in their order is read member by member. -/
theorem fields?_record {names : List String} (hnodup : names.Nodup) (values : List Json)
    (hlength : values.length = names.length) :
    (record (names.zip values)).fields? names = some (values.map some) := by
  have lookup : ∀ (names : List String) (values : List Json), names.Nodup →
      values.length = names.length → ∀ i (hn : i < names.length) (hv : i < values.length),
      valuesOf names[i] ((names.zip values).map fun m => (some m.1, m.2))
        = [values[i]] := by
    intro names
    induction names with
    | nil => intro _ _ _ i hn; exact absurd hn (by simp)
    | cons name rest ih =>
      intro values hnodup hlength i hn hv
      obtain ⟨hname, hrest⟩ := List.nodup_cons.1 hnodup
      match values, hlength with
      | value :: values, hlength =>
        simp only [List.length_cons, Nat.add_right_cancel_iff] at hlength
        match i with
        | 0 =>
          have absent : valuesOf name ((rest.zip values).map fun m => (some m.1, m.2)) = [] := by
            simp only [valuesOf, List.filterMap_map, List.filterMap_eq_nil_iff]
            intro ⟨n, v⟩ hmem
            have : n ≠ name := fun e => hname (e ▸ (List.of_mem_zip hmem).1)
            simp [this]
          simp only [valuesOf, List.zip_cons_cons, List.map_cons, List.filterMap_cons,
            List.getElem_cons_zero, if_true] at absent ⊢
          rw [absent]
        | i + 1 =>
          have hn : i < rest.length := Nat.lt_of_succ_lt_succ hn
          have hv : i < values.length := Nat.lt_of_succ_lt_succ hv
          have hne : name ≠ rest[i] := fun e => hname (e ▸ List.getElem_mem _)
          simpa [valuesOf, hne] using ih values hrest hlength i hn hv
  have hvalues : ∀ i (hn : i < names.length) (hv : i < values.length), valuesOf names[i]
      ((names.zip values).map fun m => (some m.1, m.2)) = [values[i]] :=
    lookup names values hnodup hlength
  have hkeys : ((names.zip values).map fun m => (some m.1, m.2)).all
      (fun m => m.1.isSome) = true := by
    simp [List.all_map, List.all_eq_true]
  have honce : names.all (fun name => (valuesOf name
      ((names.zip values).map fun m => (some m.1, m.2))).length ≤ 1) = true := by
    rw [List.all_eq_true]
    intro name hname
    obtain ⟨i, hi, rfl⟩ := List.getElem_of_mem hname
    simp [hvalues i hi (hlength ▸ hi)]
  show (if _ then _ else none) = _
  rw [if_pos ⟨hkeys, honce⟩]
  congr 1
  apply List.ext_getElem
  · simp [hlength]
  · intro i h1 h2
    simp [hvalues i (by simpa using h1) (by simpa using h2)]

end Json

end PadLink
