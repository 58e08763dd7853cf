import Mathlib.Data.List.Nodup
import PadLink.Proofs.Json.Reread
import PadLink.Settings.Load

set_option autoImplicit false

/-! # Partial settings files

A file may give any of the settings, in any order, and say other things in between. What it says is a list
of members, and `Gives` reads the settings off it: a member either gives one of them, or has a name that no
setting has, and then its value does not matter. Whatever text spells such an object, the settings that are
loaded from it are the defaults with the given ones put in their places, and nothing is loaded if a known
name comes twice (`partial_file`).

A record is read through the first value of each of its names. That is what is followed along the members:
each given setting changes its own member of the settings that are read (`ReadAs.set`). -/

namespace PadLink

/-! ## Records with names in any order -/

namespace Json

theorem valuesOf_record (name : String) (members : List (String × Json)) :
    valuesOf name (members.map fun m => (some m.1, m.2))
      = (members.filter fun m => m.1 = name).map Prod.snd := by
  induction members with
  | nil => rfl
  | cons member members ih =>
    rw [valuesOf] at ih ⊢
    by_cases hname : member.1 = name <;> simp [hname, ih]

theorem head?_filter_eq_lookup (name : String) (members : List (String × Json)) :
    ((members.filter fun m => m.1 = name).map Prod.snd).head? = members.lookup name := by
  induction members with
  | nil => rfl
  | cons member members ih =>
    obtain ⟨key, value⟩ := member
    by_cases hname : key = name
    · subst hname
      simp
    · have hne : (name == key) = false := beq_eq_false_iff_ne.2 (Ne.symm hname)
      simp only [hname, decide_false, Bool.false_eq_true, not_false_eq_true, List.filter_cons_of_neg,
        List.lookup_cons, hne, ih]

theorem length_filter_eq_count (name : String) (members : List (String × Json)) :
    ((members.filter fun m => m.1 = name).map Prod.snd).length = (members.map Prod.fst).count name := by
  rw [List.length_map, List.count, List.countP_map, List.countP_eq_length_filter]
  rfl

/-- An object is read as a record if none of the names comes twice. -/
theorem fields?_record_of_count_le {names : List String} {members : List (String × Json)}
    (h : ∀ name ∈ names, (members.map Prod.fst).count name ≤ 1) :
    (record members).fields? names = some (names.map fun name => members.lookup name) := by
  simp only [record, fields?, valuesOf_record, head?_filter_eq_lookup, length_filter_eq_count]
  rw [if_pos]
  simpa using h

/-- A name that comes twice spoils a record. -/
theorem fields?_record_of_lt_count {names : List String} {members : List (String × Json)} {name : String}
    (hname : name ∈ names) (h : 2 ≤ (members.map Prod.fst).count name) :
    (record members).fields? names = none := by
  simp only [record, fields?, valuesOf_record, length_filter_eq_count]
  rw [if_neg]
  rintro ⟨-, hall⟩
  have := of_decide_eq_true (List.all_eq_true.1 hall name hname)
  omega

end Json

/-! ## Settings one by one -/

/-- One of the settings, with its value. -/
inductive Setting where
  | peerIp (address : IpAddress)
  | bindAddress (address : SocketAddress)
  | handshakeWaitMs (ms : UInt64)
  | receiveTimeoutMs (ms : UInt64)
  | toleratedTimeouts (n : UInt32)
  | readyPulseMs (ms : UInt64)
  | readyPollMs (ms : UInt64)
  | readyTimeoutMs (ms : Option UInt64)

namespace Setting

/-- The name of a setting in a file. -/
def name : Setting → String
  | peerIp _ => "peer_ip"
  | bindAddress _ => "bind_addr"
  | handshakeWaitMs _ => "handshake_wait_ms"
  | receiveTimeoutMs _ => "recv_timeout_ms"
  | toleratedTimeouts _ => "max_consecutive_timeouts"
  | readyPulseMs _ => "ready_flash_ms"
  | readyPollMs _ => "ready_poll_ms"
  | readyTimeoutMs _ => "ready_timeout_ms"

/-- The JSON is a value of the setting's type, and the one that the setting has: the text of an address, a
    number in its range, or `null` for a missing one. -/
def Means : Setting → Json → Prop
  | peerIp address, json => ∃ s : String, json = .text s ∧ IpAddress.ofText? s.toList = some address
  | bindAddress address, json =>
    ∃ s : String, json = .text s ∧ SocketAddress.ofText? s.toList = some address
  | handshakeWaitMs ms, json | receiveTimeoutMs ms, json | readyPulseMs ms, json
  | readyPollMs ms, json | readyTimeoutMs (some ms), json => json = .nat ms.toNat
  | toleratedTimeouts n, json => json = .nat n.toNat
  | readyTimeoutMs none, json => json = .null

/-- Put the setting in its place. -/
def set : Setting → Settings → Settings
  | peerIp address, settings => { settings with peerIp := address }
  | bindAddress address, settings => { settings with bindAddress := address }
  | handshakeWaitMs ms, settings => { settings with handshakeWaitMs := ms }
  | receiveTimeoutMs ms, settings => { settings with receiveTimeoutMs := ms }
  | toleratedTimeouts n, settings => { settings with toleratedTimeouts := n }
  | readyPulseMs ms, settings => { settings with readyPulseMs := ms }
  | readyPollMs ms, settings => { settings with readyPollMs := ms }
  | readyTimeoutMs ms, settings => { settings with readyTimeoutMs := ms }

/-- Settings with different names have different places. -/
theorem set_comm {setting other : Setting} (h : setting.name ≠ other.name) (settings : Settings) :
    setting.set (other.set settings) = other.set (setting.set settings) := by
  cases setting <;> cases other <;> first | rfl | exact absurd rfl h

/-- So the order in which they are put in their places makes no difference. -/
theorem foldr_set_perm {given other : List Setting} (h : given.Perm other)
    (hnodup : (given.map name).Nodup) (settings : Settings) :
    given.foldr set settings = other.foldr set settings := by
  refine h.foldr_eq' (fun first hfirst second hsecond settings => ?_) settings
  by_cases hname : first.name = second.name
  · rw [List.inj_on_of_nodup_map hnodup hfirst hsecond hname]
  · exact set_comm (Ne.symm hname) settings

end Setting

/-- What the members of an object give of the settings: each of them gives one, or it has a name that no
    setting has. -/
inductive Gives : List (String × Json) → List Setting → Prop
  | nil : Gives [] []
  | known {setting : Setting} {json : Json} {members : List (String × Json)} {given : List Setting}
      (hmeans : setting.Means json) (h : Gives members given) :
      Gives ((setting.name, json) :: members) (setting :: given)
  | unknown {name : String} {json : Json} {members : List (String × Json)} {given : List Setting}
      (hname : name ∉ Settings.names) (h : Gives members given) : Gives ((name, json) :: members) given

/-- A known name comes as often as it is given. -/
theorem Gives.count_eq {members : List (String × Json)} {given : List Setting} (h : Gives members given)
    {name : String} (hname : name ∈ Settings.names) :
    (members.map Prod.fst).count name = (given.map Setting.name).count name := by
  induction h with
  | nil => rfl
  | known hmeans _ ih => simp only [List.map_cons, List.count_cons, ih]
  | @unknown other _ _ _ hother _ ih =>
    have hne : other ≠ name := fun heq => hother (heq ▸ hname)
    rw [List.map_cons, List.count_cons_of_ne hne, ih]

/-! ## Reading the settings -/

namespace Settings

/-- What the settings are read as, given the first value of each name. -/
structure ReadAs (first : String → Option Json) (settings : Settings) : Prop where
  peerIp : memberOr ({} : Settings).peerIp (first "peer_ip") = some settings.peerIp
  bindAddress : memberOr ({} : Settings).bindAddress (first "bind_addr") = some settings.bindAddress
  handshakeWaitMs :
    memberOr ({} : Settings).handshakeWaitMs (first "handshake_wait_ms") = some settings.handshakeWaitMs
  receiveTimeoutMs :
    memberOr ({} : Settings).receiveTimeoutMs (first "recv_timeout_ms") = some settings.receiveTimeoutMs
  toleratedTimeouts : memberOr ({} : Settings).toleratedTimeouts (first "max_consecutive_timeouts")
    = some settings.toleratedTimeouts
  readyPulseMs : memberOr ({} : Settings).readyPulseMs (first "ready_flash_ms") = some settings.readyPulseMs
  readyPollMs : memberOr ({} : Settings).readyPollMs (first "ready_poll_ms") = some settings.readyPollMs
  readyTimeoutMs :
    memberOr ({} : Settings).readyTimeoutMs (first "ready_timeout_ms") = some settings.readyTimeoutMs

namespace ReadAs

variable {members : List (String × Json)} {settings : Settings}

theorem ofJson? (h : ReadAs (members.lookup ·) settings)
    (hcount : ∀ name ∈ names, (members.map Prod.fst).count name ≤ 1) :
    ofJson? (Json.record members) = some settings := by
  have hfields := Json.fields?_record_of_count_le hcount
  unfold JsonForm.ofJson? instJsonFormSettings
  dsimp only
  rw [hfields]
  simp only [names, List.map_cons, List.map_nil, Option.bind_eq_bind, Option.bind_some, h.peerIp,
    h.bindAddress, h.handshakeWaitMs, h.receiveTimeoutMs, h.toleratedTimeouts, h.readyPulseMs,
    h.readyPollMs, h.readyTimeoutMs, Option.pure_def]

/-- A setting in front changes its own member, whatever that would have been. -/
theorem set (h : ReadAs (members.lookup ·) settings) {setting : Setting} {json : Json}
    (hmeans : setting.Means json) :
    ReadAs (((setting.name, json) :: members).lookup ·) (setting.set settings) := by
  -- The lookup of any other name passes the setting by, which is a matter of computation.
  cases setting with
  | peerIp address =>
    obtain ⟨s, rfl, haddress⟩ := hmeans
    exact { h with peerIp := haddress }
  | bindAddress address =>
    obtain ⟨s, rfl, haddress⟩ := hmeans
    exact { h with bindAddress := haddress }
  | handshakeWaitMs ms =>
    obtain rfl := hmeans
    exact { h with handshakeWaitMs := JsonForm.ofJson?_toJson_uint64 ms }
  | receiveTimeoutMs ms =>
    obtain rfl := hmeans
    exact { h with receiveTimeoutMs := JsonForm.ofJson?_toJson_uint64 ms }
  | toleratedTimeouts n =>
    obtain rfl := hmeans
    exact { h with toleratedTimeouts := JsonForm.ofJson?_toJson_uint32 n }
  | readyPulseMs ms =>
    obtain rfl := hmeans
    exact { h with readyPulseMs := JsonForm.ofJson?_toJson_uint64 ms }
  | readyPollMs ms =>
    obtain rfl := hmeans
    exact { h with readyPollMs := JsonForm.ofJson?_toJson_uint64 ms }
  | readyTimeoutMs ms =>
    cases ms with
    | none =>
      obtain rfl := hmeans
      exact { h with readyTimeoutMs := rfl }
    | some ms =>
      obtain rfl := hmeans
      exact { h with readyTimeoutMs := congrArg (Option.map some) (JsonForm.ofJson?_toJson_uint64 ms) }

/-- A member with another name changes nothing. -/
theorem cons_of_notMem (h : ReadAs (members.lookup ·) settings) {name : String} (hname : name ∉ names)
    (json : Json) : ReadAs (((name, json) :: members).lookup ·) settings := by
  have hother : ∀ other ∈ names, members.lookup other = ((name, json) :: members).lookup other := by
    intro other hmem
    have hne : (other == name) = false := beq_eq_false_iff_ne.2 fun heq => hname (heq ▸ hmem)
    rw [List.lookup_cons, hne]
  exact {
    peerIp := hother "peer_ip" (by decide) ▸ h.peerIp
    bindAddress := hother "bind_addr" (by decide) ▸ h.bindAddress
    handshakeWaitMs := hother "handshake_wait_ms" (by decide) ▸ h.handshakeWaitMs
    receiveTimeoutMs := hother "recv_timeout_ms" (by decide) ▸ h.receiveTimeoutMs
    toleratedTimeouts := hother "max_consecutive_timeouts" (by decide) ▸ h.toleratedTimeouts
    readyPulseMs := hother "ready_flash_ms" (by decide) ▸ h.readyPulseMs
    readyPollMs := hother "ready_poll_ms" (by decide) ▸ h.readyPollMs
    readyTimeoutMs := hother "ready_timeout_ms" (by decide) ▸ h.readyTimeoutMs }

end ReadAs

/-- The settings that are given are put in the places of the defaults. -/
theorem readAs_of_gives {members : List (String × Json)} {given : List Setting}
    (h : Gives members given) : ReadAs (members.lookup ·) (given.foldr Setting.set {}) := by
  induction h with
  | nil => exact ⟨rfl, rfl, rfl, rfl, rfl, rfl, rfl, rfl⟩
  | known hmeans _ ih => exact ih.set hmeans
  | unknown hname _ ih => exact ih.cons_of_notMem hname _

theorem ofFile_of_ofJson? {content : String} {json : Json} (h : Json.Spells content.toList json) :
    ofFile (.text content) = (ofJson? json : Option Settings).elim (.error .json) .ok := by
  rw [ofFile_text, Json.parse?_of_spells h, Option.bind_some]

theorem ofJson?_of_fields? {json : Json} (h : json.fields? names = none) :
    (ofJson? json : Option Settings) = none := by
  unfold JsonForm.ofJson? instJsonFormSettings
  dsimp only
  rw [h]
  rfl

/-- A file is any text that spells an object. If its members give settings, each at most once, in whatever
    order and between whatever else, the defaults with these settings in their places are loaded from it.
    If one of the known names comes more than once, the file is refused. -/
theorem partial_file {content : String} {members : List (String × Json)}
    (h : Json.Spells content.toList (.record members)) :
    (∀ given ordered : List Setting, (given.map Setting.name).Nodup → given.Perm ordered →
        Gives members ordered → ofFile (.text content) = .ok (given.foldr Setting.set {}))
      ∧ ∀ name ∈ names, 2 ≤ (members.map Prod.fst).count name →
        ofFile (.text content) = .error .json := by
  rw [ofFile_of_ofJson? h]
  refine ⟨fun given ordered hnodup hperm hgives => ?_, fun name hname hcount => ?_⟩
  · have hordered : (ordered.map Setting.name).Nodup := (hperm.map Setting.name).nodup_iff.1 hnodup
    have hcount : ∀ name ∈ names, (members.map Prod.fst).count name ≤ 1 := fun name hname =>
      hgives.count_eq hname ▸ List.nodup_iff_count_le_one.1 hordered name
    rw [(readAs_of_gives hgives).ofJson? hcount, Option.elim_some,
      Setting.foldr_set_perm hperm hnodup]
  · rw [ofJson?_of_fields? (Json.fields?_record_of_lt_count hname hcount), Option.elim_none]

/-- The text has two settings against their order, blanks, and between them a name of no setting whose value
    has one of the known names deeper inside. With that name twice at the top it is refused. -/
theorem partial_file_of_scattered :
    ofFile (.text "\x7b \"ready_timeout_ms\" : 5000 ,\"x\":[1.5e3,\x7b\"peer_ip\":1\x7d],\"peer_ip\":\"10.0.0.7\"\x7d")
        = .ok { peerIp := .v4 ⟨10, 0, 0, 7⟩, readyTimeoutMs := some 5000 }
      ∧ ofFile (.text "\x7b\"peer_ip\":\"10.0.0.7\",\"peer_ip\":\"10.0.0.8\"\x7d") = .error .json := by
  -- The value of the foreign name, and the members with the blanks around their parts.
  have hdigit : ∀ c, Digits.isDigit 10 c = true → Json.IsDigits [c] := fun c hc =>
    ⟨List.cons_ne_nil _ _, List.forall_mem_singleton.2 hc⟩
  have hreal : Json.Spells "1.5e3".toList (.real "1.5e3") :=
    @Json.Spells.number ⟨false, ['1'], ['.', '5'], ['e', '3']⟩
      ⟨hdigit '1' (by decide), by decide, Or.inr ⟨['5'], hdigit '5' (by decide), rfl⟩,
        Or.inr ⟨'e', [], ['3'], by decide, by decide, hdigit '3' (by decide), rfl⟩⟩
  have hforeign : Json.Spells "[1.5e3,\x7b\"peer_ip\":1\x7d]".toList
      (.array [.real "1.5e3", .object [(some "peer_ip", .nat 1)]]) := by
    have hobject : Json.Exact (.object [(some "peer_ip", .nat 1)]) :=
      .object (List.forall_mem_singleton.2 (.nat 1))
    exact @Json.Spells.array [("1.5e3".toList, _), ("\x7b\"peer_ip\":1\x7d".toList, _)] (by decide)
      (List.forall_mem_cons.2 ⟨hreal, List.forall_mem_singleton.2 hobject.spells⟩)
  have hmillis : Json.Spells " 5000 ".toList (.nat 5000) :=
    @Json.Spells.padded [' '] "5000".toList [' '] _ (by decide) (by decide) (Json.Exact.nat 5000).spells
  refine ⟨(@partial_file _ [("ready_timeout_ms", .nat 5000),
      ("x", .array [.real "1.5e3", .object [(some "peer_ip", .nat 1)]]), ("peer_ip", .text "10.0.0.7")]
      ?_).1 [.peerIp (.v4 ⟨10, 0, 0, 7⟩), .readyTimeoutMs (some 5000)]
      [.readyTimeoutMs (some 5000), .peerIp (.v4 ⟨10, 0, 0, 7⟩)] (by decide) (.swap _ _ _) ?_,
    (@partial_file _ [("peer_ip", .text "10.0.0.7"), ("peer_ip", .text "10.0.0.8")] ?_).2
      "peer_ip" (by decide) (by decide)⟩
  · refine @Json.Spells.object [⟨[' '], "ready_timeout_ms".toList, [' '], " 5000 ".toList, _, _⟩,
      ⟨[], "x".toList, [], "[1.5e3,\x7b\"peer_ip\":1\x7d]".toList, _, _⟩,
      ⟨[], "peer_ip".toList, [], "\"10.0.0.7\"".toList, _, _⟩] (by decide) ?_ ?_
    · have hname := fun name => Json.spellsString_unquoted (some name)
      exact List.forall_mem_cons.2 ⟨⟨by decide, hname "ready_timeout_ms", by decide⟩,
        List.forall_mem_cons.2 ⟨⟨by decide, hname "x", by decide⟩,
          List.forall_mem_singleton.2 ⟨by decide, hname "peer_ip", by decide⟩⟩⟩
    · exact List.forall_mem_cons.2 ⟨hmillis, List.forall_mem_cons.2 ⟨hforeign,
        List.forall_mem_singleton.2 (Json.Exact.text "10.0.0.7").spells⟩⟩
  · exact @Gives.known (.readyTimeoutMs (some 5000)) _ _ _ rfl <| .unknown (by decide) <|
      @Gives.known (.peerIp (.v4 ⟨10, 0, 0, 7⟩)) _ _ _ ⟨"10.0.0.7", rfl, by decide⟩ .nil
  · exact (@Json.Exact.record [("peer_ip", .text "10.0.0.7"), ("peer_ip", .text "10.0.0.8")]
      (List.forall_mem_cons.2 ⟨.text _, List.forall_mem_singleton.2 (.text _)⟩)).spells

end Settings

end PadLink
