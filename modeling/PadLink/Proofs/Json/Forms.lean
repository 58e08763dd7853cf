import PadLink.Json.Device
import PadLink.Settings.Load
import PadLink.Proofs.Address.Reread
import PadLink.Proofs.Json.Reread

set_option autoImplicit false

/-! # Written values are read back

Writing and reading are two steps each: a value has a JSON form, and the form has a text. A form is
lawful if it means the value that it was made of, and if its text is read back as the form, for which
it must be `Json.Exact`. Numbers, addresses and actions have lawful forms, and a record has one if its
members have; so all values that are written come back (`written_values_come_back`). -/

namespace PadLink

open Json (Exact)

/-- A type whose values are written exactly, and as something that means them. -/
class LawfulForm (α : Type) [JsonForm α] : Prop where
  exact_toJson (value : α) : Exact (toJson value)
  ofJson?_toJson (value : α) : ofJson? (toJson value) = some value

namespace LawfulForm

attribute [simp] exact_toJson ofJson?_toJson

/-- The text of a value means the value. -/
theorem read_written {α : Type} [JsonForm α] [LawfulForm α] (value : α) :
    (Json.parse? (toJson value).render).bind ofJson? = some value := by
  rw [Json.parse?_render (exact_toJson value), Option.bind_some, ofJson?_toJson]

/-! ## Numbers, addresses, actions -/

instance : LawfulForm UInt8 := ⟨fun n => .nat n.toNat, JsonForm.ofJson?_toJson_uint8⟩

instance : LawfulForm UInt16 := ⟨fun n => .nat n.toNat, JsonForm.ofJson?_toJson_uint16⟩

instance : LawfulForm UInt32 := ⟨fun n => .nat n.toNat, JsonForm.ofJson?_toJson_uint32⟩

instance : LawfulForm UInt64 := ⟨fun n => .nat n.toNat, JsonForm.ofJson?_toJson_uint64⟩

instance : LawfulForm Int16 := ⟨fun n => .integer n.toInt, JsonForm.ofJson?_toJson_int16⟩

/-- A number is never written as the `null` of a missing one. -/
instance : LawfulForm (Option UInt64) where
  exact_toJson
    | none => .null
    | some n => .nat n.toNat
  ofJson?_toJson
    | none => rfl
    | some n => congrArg (Option.map some) (JsonForm.ofJson?_toJson_uint64 n)

instance : LawfulForm IpAddress where
  exact_toJson address := .text address.render
  ofJson?_toJson address := by
    have h := IpAddress.ofText?_text address
    rwa [← String.toList_ofList (l := address.text)] at h

instance : LawfulForm SocketAddress where
  exact_toJson address := .text address.render
  ofJson?_toJson address := by
    have h := SocketAddress.ofText?_text address
    rwa [← String.toList_ofList (l := address.text)] at h

instance : LawfulForm KeyAction where
  exact_toJson action := .text action.name
  ofJson?_toJson action := by cases action <;> rfl

/-! ## Records -/

/-- A record says for its own names what its members are. -/
theorem fields?_members {members : List (String × Json)} {names : List String}
    (hnames : members.map Prod.fst = names) (hnodup : names.Nodup) :
    (Json.record members).fields? names = some (members.map fun m => some m.2) := by
  have h := Json.fields?_record hnodup (members.map Prod.snd) (by rw [← hnames]; simp)
  have hzip : names.zip (members.map Prod.snd) = members := by
    rw [← hnames, List.zip_map']
    simp
  rwa [hzip, List.map_map] at h

instance : LawfulForm Gamepad where
  exact_toJson pad := .record (by simp)
  ofJson?_toJson pad := by
    rw [toJson, ofJson?, instJsonFormGamepad]
    simp [fields?_members]

instance : LawfulForm GamepadState where
  exact_toJson state := .record (by simp)
  ofJson?_toJson state := by
    rw [toJson, ofJson?, instJsonFormGamepadState]
    simp [fields?_members]

instance : LawfulForm Vibration where
  exact_toJson vibration := .record (by simp)
  ofJson?_toJson vibration := by
    rw [toJson, ofJson?, instJsonFormVibration]
    simp [fields?_members]

instance : LawfulForm Capabilities where
  exact_toJson capabilities := .record (by simp)
  ofJson?_toJson capabilities := by
    rw [toJson, ofJson?, instJsonFormCapabilities]
    simp [fields?_members]

instance : LawfulForm ExtendedCapabilities where
  exact_toJson extended := .record (by simp)
  ofJson?_toJson extended := by
    rw [toJson, ofJson?, instJsonFormExtendedCapabilities]
    simp [fields?_members]

instance : LawfulForm Keystroke where
  exact_toJson keystroke := .record (by simp)
  ofJson?_toJson keystroke := by
    rw [toJson, ofJson?, instJsonFormKeystroke]
    simp [fields?_members]

instance : LawfulForm Settings where
  exact_toJson settings := .record (by simp [Settings.names])
  ofJson?_toJson settings := by
    rw [toJson, ofJson?, instJsonFormSettings]
    simp [fields?_members, Settings.names, memberOr]

end LawfulForm

/-! ## All values -/

/-- Every value of the type comes back from its text; so whatever text a value was read from, its own
    text gives the same value again. -/
structure ComesBack (α : Type) [JsonForm α] : Prop where
  written : ∀ value : α, (Json.parse? (toJson value).render).bind ofJson? = some value
  rewritten : ∀ (text : String) (value : α), (Json.parse? text).bind ofJson? = some value →
    (Json.parse? (toJson value).render).bind ofJson? = some value

theorem comesBack (α : Type) [JsonForm α] [LawfulForm α] : ComesBack α where
  written := LawfulForm.read_written
  rewritten _ value _ := LawfulForm.read_written value

/-- Gamepads, reports, keystrokes and settings come back from their texts, and a settings file with a
    written text holds the settings. -/
theorem written_values_come_back :
    ComesBack Gamepad ∧ ComesBack GamepadState ∧ ComesBack Vibration ∧ ComesBack Capabilities
    ∧ ComesBack ExtendedCapabilities ∧ ComesBack KeyAction ∧ ComesBack Keystroke ∧ ComesBack Settings
    ∧ ∀ settings : Settings, Settings.ofFile (.text (toJson settings).render) = .ok settings := by
  refine ⟨comesBack _, comesBack _, comesBack _, comesBack _, comesBack _, comesBack _, comesBack _,
    comesBack _, fun settings => ?_⟩
  rw [Settings.ofFile, LawfulForm.read_written]

end PadLink
