import PadLink.Json.Basic

set_option autoImplicit false

/-! # Values as JSON

A type with a JSON form is written in one way and read from every value that means one of its
members. Numbers of a fixed width are read from plain integers in their range and from nothing else;
in particular `1.0` and `-0` are no integers. A value that may be missing is written as `null`. -/

namespace PadLink

/-- A type whose values are written as JSON and read from it. -/
class JsonForm (α : Type) where
  /-- The value as JSON. -/
  toJson : α → Json
  /-- The value that the JSON means. -/
  ofJson? : Json → Option α

export JsonForm (toJson ofJson?)

namespace JsonForm

instance : JsonForm Bool where
  toJson := .bool
  ofJson? := Json.bool?

instance : JsonForm UInt8 where
  toJson n := .nat n.toNat
  ofJson? json := (json.nat? UInt8.size).map UInt8.ofNat

instance : JsonForm UInt16 where
  toJson n := .nat n.toNat
  ofJson? json := (json.nat? UInt16.size).map UInt16.ofNat

instance : JsonForm UInt32 where
  toJson n := .nat n.toNat
  ofJson? json := (json.nat? UInt32.size).map UInt32.ofNat

instance : JsonForm UInt64 where
  toJson n := .nat n.toNat
  ofJson? json := (json.nat? UInt64.size).map UInt64.ofNat

instance : JsonForm Int16 where
  toJson n := .integer n.toInt
  ofJson?
    | .integer n => if -32768 ≤ n ∧ n < 32768 then some (Int16.ofInt n) else none
    | _ => none

instance {α : Type} [JsonForm α] : JsonForm (Option α) where
  toJson
    | none => .null
    | some a => toJson a
  ofJson?
    | .null => some none
    | json => (ofJson? json).map some

theorem ofJson?_toJson_uint8 (n : UInt8) : ofJson? (toJson n) = some n := by
  have h : n.toNat < UInt8.size := n.toNat_lt
  show (if n.toNat < UInt8.size then some n.toNat else none).map UInt8.ofNat = some n
  rw [if_pos h, Option.map_some, UInt8.ofNat_toNat]

theorem ofJson?_toJson_uint16 (n : UInt16) : ofJson? (toJson n) = some n := by
  have h : n.toNat < UInt16.size := n.toNat_lt
  show (if n.toNat < UInt16.size then some n.toNat else none).map UInt16.ofNat = some n
  rw [if_pos h, Option.map_some, UInt16.ofNat_toNat]

theorem ofJson?_toJson_uint32 (n : UInt32) : ofJson? (toJson n) = some n := by
  have h : n.toNat < UInt32.size := n.toNat_lt
  show (if n.toNat < UInt32.size then some n.toNat else none).map UInt32.ofNat = some n
  rw [if_pos h, Option.map_some, UInt32.ofNat_toNat]

theorem ofJson?_toJson_uint64 (n : UInt64) : ofJson? (toJson n) = some n := by
  have h : n.toNat < UInt64.size := n.toNat_lt
  show (if n.toNat < UInt64.size then some n.toNat else none).map UInt64.ofNat = some n
  rw [if_pos h, Option.map_some, UInt64.ofNat_toNat]

theorem ofJson?_toJson_int16 (n : Int16) : ofJson? (toJson n) = some n := by
  have hlow := n.le_toInt
  have hhigh := n.toInt_lt
  simp only [toJson, ofJson?]
  rw [if_pos ⟨hlow, hhigh⟩, Int16.ofInt_toInt]

end JsonForm

end PadLink
