import PadLink.Proofs.Session.Pulse
import PadLink.Proofs.Session.Sharing

set_option autoImplicit false

/-! # The layers of the settings

Loading goes through three layers, and a layer that is bad ends it: the file, or the defaults where there
is none; then the variable, which names an address or is of no use. `Layered` says what comes of any file
and any bytes in the variable. A shared session has just the loaded settings, or the defaults as a whole.

Of values that are applied one after the other the address of the last useful one is left, and nothing
else of the settings is ever touched (`afterEach_eq`). A value that is refused comes back with the settings
it was applied to (`applyVariable_of_error`). -/

namespace PadLink

/-! ## The file -/

namespace SettingsFile

/-- The settings that a file gives, if it is not bad. Without a file these are the defaults. -/
def settings? : SettingsFile → Option Settings
  | .absent => some {}
  | .directory | .unreadable _ | .undecodable => none
  | .text content => (Json.parse? content).bind ofJson?

/-- The error is that of a bad file: of a text without a meaning, or of something that is no text. -/
def Blames : SettingsFile → Error → Prop
  | .text _, error => error = .json
  | _, error => ∃ detail, error = .io detail

end SettingsFile

namespace Settings

theorem ofUserFile_of_some {file : SettingsFile} {settings : Settings}
    (h : file.settings? = some settings) : ofUserFile file = .ok settings := by
  cases file with
  | absent => rw [← Option.some.inj h]; rfl
  | directory => cases h
  | unreadable detail => cases h
  | undecodable => cases h
  | text content =>
    have hmeant : (Json.parse? content).bind ofJson? = some settings := h
    show ofFile (.text content) = _
    rw [ofFile_text, hmeant, Option.elim_some]

theorem ofUserFile_of_none {file : SettingsFile} (h : file.settings? = none) :
    ∃ error, ofUserFile file = .error error ∧ file.Blames error := by
  cases file with
  | absent => cases h
  | directory => exact ⟨_, rfl, _, rfl⟩
  | unreadable detail => exact ⟨_, rfl, _, rfl⟩
  | undecodable => exact ⟨_, rfl, _, rfl⟩
  | text content =>
    have hmeant : (Json.parse? content).bind ofJson? = (none : Option Settings) := h
    refine ⟨.json, ?_, rfl⟩
    show ofFile (.text content) = _
    rw [ofFile_text, hmeant, Option.elim_none]

/-! ## The variable -/

/-- The address that a value of the variable names, blanks around it left aside. -/
def addressOf? (value : String) : Option IpAddress := IpAddress.ofText? (trimBlanks value.toList)

/-- What is said of a value that names no address. -/
def complaint (value : String) : String :=
  peerIpVariable ++ "=" ++ Quoted.quote value ++ ": invalid IP address syntax"

theorem applyVariable_of_address (settings : Settings) {value : String} {ip : IpAddress}
    (h : addressOf? value = some ip) :
    settings.applyVariable (some value) = (.ok (), { settings with peerIp := ip }) := by
  unfold addressOf? at h
  unfold applyVariable
  dsimp only
  rw [h]

theorem applyVariable_of_junk (settings : Settings) {value : String} (h : addressOf? value = none) :
    settings.applyVariable (some value) = (.error (.config (complaint value)), settings) := by
  unfold addressOf? at h
  unfold applyVariable
  dsimp only
  rw [h]
  rfl

/-- A value is applied unless it names no address. -/
theorem applyVariable_ok_iff (settings : Settings) (value : Option String) :
    (settings.applyVariable value).1 = .ok () ↔ ∀ text ∈ value, ∃ ip, addressOf? text = some ip := by
  cases value with
  | none => exact ⟨fun _ => nofun, fun _ => rfl⟩
  | some text =>
    cases haddress : addressOf? text with
    | none => simp [applyVariable_of_junk settings haddress, haddress]
    | some ip => simp [applyVariable_of_address settings haddress, haddress]

/-- A value that is refused names no address, and leaves the settings as they were. -/
theorem applyVariable_of_error {settings : Settings} {value : Option String} {error : Error}
    (h : (settings.applyVariable value).1 = .error error) :
    (∃ text, value = some text ∧ addressOf? text = none ∧ error = .config (complaint text))
      ∧ (settings.applyVariable value).2 = settings := by
  cases value with
  | none => cases h
  | some text =>
    cases haddress : addressOf? text with
    | some ip =>
      rw [applyVariable_of_address settings haddress] at h
      cases h
    | none =>
      rw [applyVariable_of_junk settings haddress] at h ⊢
      exact ⟨⟨text, rfl, haddress, (Except.error.inj h).symm⟩, rfl⟩

/-- Whatever the value is, the address is replaced or nothing is. -/
theorem snd_applyVariable (settings : Settings) (value : Option String) :
    (settings.applyVariable value).2
      = { settings with peerIp := (value.bind addressOf?).getD settings.peerIp } := by
  cases value with
  | none => rfl
  | some text =>
    rw [Option.bind_some]
    cases haddress : addressOf? text with
    | none => rw [applyVariable_of_junk settings haddress]; rfl
    | some ip => rw [applyVariable_of_address settings haddress]; rfl

/-! ## Values one after the other -/

/-- The settings behind the given values. -/
def afterEach (settings : Settings) (values : List (Option String)) : Settings :=
  values.foldl (fun settings value => (settings.applyVariable value).2) settings

theorem afterEach_append_singleton (settings : Settings) (before : List (Option String))
    (value : Option String) :
    settings.afterEach (before ++ [value]) = ((settings.afterEach before).applyVariable value).2 :=
  List.foldl_append

theorem afterEach_cons (settings : Settings) (value : Option String) (rest : List (Option String)) :
    settings.afterEach (value :: rest) = (settings.applyVariable value).2.afterEach rest := rfl

/-- Nothing but the address is ever changed, and it is that of the last value that names one. -/
theorem afterEach_eq (settings : Settings) (values : List (Option String)) :
    settings.afterEach values
      = { settings with
          peerIp := (values.filterMap (·.bind addressOf?)).getLast?.getD settings.peerIp } := by
  induction values generalizing settings with
  | nil => rfl
  | cons value rest ih =>
    rw [afterEach_cons, ih, snd_applyVariable, List.filterMap_cons]
    cases value.bind addressOf? with
    | none => rfl
    | some ip => simp [List.getLast?_cons]

/-- The outcome of each value is that of its application to the settings that are there by then. -/
theorem getElem?_applyEach (settings : Settings) (before : List (Option String))
    (value : Option String) (rest : List (Option String)) :
    (settings.applyEach (before ++ value :: rest))[before.length]?
      = some ((settings.afterEach before).applyVariable value) := by
  induction before generalizing settings with
  | nil => rfl
  | cons first before ih =>
    rw [List.cons_append, applyEach, List.length_cons, List.getElem?_cons_succ, ih, ← afterEach_cons]

theorem length_applyEach (settings : Settings) (values : List (Option String)) :
    (settings.applyEach values).length = values.length := by
  induction values generalizing settings with
  | nil => rfl
  | cons value rest ih => rw [applyEach, List.length_cons, List.length_cons, ih]

/-! ## Loading -/

section

variable {environment : Environment} {file : SettingsFile} (hplace : environment.file = some file)

include hplace

theorem load_of_place : load environment = (ofUserFile file).bind fun base =>
    (base.applyVariable environment.peerIp).1.map
      fun _ => (base.applyVariable environment.peerIp).2 := by
  rw [load, Environment.userFile, hplace]
  rfl

/-- Both layers go into the settings that are loaded, in this order. -/
theorem load_of_some {base : Settings} (h : file.settings? = some base) :
    load environment = (base.applyVariable environment.peerIp).1.map
      fun _ => (base.applyVariable environment.peerIp).2 := by
  rw [load_of_place hplace, ofUserFile_of_some h]
  rfl

/-- A bad file ends the loading, whatever the variable is. -/
theorem load_of_none (h : file.settings? = none) :
    ∃ error, load environment = .error error ∧ file.Blames error := by
  obtain ⟨error, herror, hblames⟩ := ofUserFile_of_none h
  refine ⟨error, ?_, hblames⟩
  rw [load_of_place hplace, herror]
  rfl

/-- Loading succeeds just when neither layer is bad. -/
theorem load_ok_iff :
    (∃ settings, load environment = .ok settings)
      ↔ (∃ base, file.settings? = some base)
        ∧ ∀ text ∈ environment.peerIp, ∃ ip, addressOf? text = some ip := by
  cases hfile : file.settings? with
  | none =>
    obtain ⟨error, herror, -⟩ := load_of_none hplace hfile
    simp [herror]
  | some base =>
    rw [load_of_some hplace hfile, ← applyVariable_ok_iff base]
    cases (base.applyVariable environment.peerIp).1 <;> simp [Except.map]

/-- What is loaded are the settings of the file, up to the address. -/
theorem load_eq_ok {settings : Settings} (h : load environment = .ok settings) :
    ∃ base, file.settings? = some base ∧ settings
      = { base with peerIp := (environment.peerIp.bind addressOf?).getD base.peerIp } := by
  cases hfile : file.settings? with
  | none =>
    obtain ⟨error, herror, -⟩ := load_of_none hplace hfile
    rw [herror] at h
    cases h
  | some base =>
    rw [load_of_some hplace hfile, snd_applyVariable] at h
    cases houtcome : (base.applyVariable environment.peerIp).1 with
    | error error =>
      rw [houtcome] at h
      cases h
    | ok _ =>
      rw [houtcome] at h
      exact ⟨base, rfl, (Except.ok.inj h).symm⟩

end

/-- Without a directory for settings files nothing is loaded, whatever the variable is. -/
theorem load_of_placeless {environment : Environment} (h : environment.file = none) :
    load environment = .error (.config "Cannot find config directory") := by
  rw [load, Environment.userFile, h]
  rfl

end Settings

/-! ## The settings of a session -/

namespace Session

/-- The settings stay what they were at the start, whatever that came to. -/
theorem settings_of_openWith (settings : Settings) (peer : SocketAddress) (network : Network) :
    (openWith settings peer network).settings = settings := by
  have hlaunched : ∀ other : Network,
      (launch settings peer other).awaitHandshake.settings = settings := fun other =>
    (leads_awaitHandshake _).settings.trans (congrArg Setup.settings (setup_launch settings peer other))
  unfold openWith
  split
  · rfl
  · dsimp only
    split
    · rfl
    · exact hlaunched _

theorem settings_step {session after : Session} {step : Step} {answer : Answer}
    (h : session.step step = some (answer, after)) : after.settings = session.settings := by
  rcases leads_step h with ⟨hleads, -⟩ | ⟨selector, -, rfl⟩
  · exact hleads.settings
  · exact (idle_nextKeystroke session selector).settings

end Session

namespace Shared

/-- The settings of a session that runs, and those with which one would be started. -/
def settings : Shared → Settings
  | idle environment _ => settingsOrDefault environment
  | running session => session.settings

theorem settings_session (shared : Shared) : shared.session.settings = shared.settings := by
  cases shared with
  | idle environment network => exact Session.settings_of_openWith _ _ _
  | running session => rfl

theorem settings_step {shared after : Shared} {step : Step} {answer : Answer}
    (h : shared.step step = some (answer, after)) : after.settings = shared.settings := by
  cases step with
  | push delivery =>
    obtain ⟨-, rfl⟩ := Prod.mk.inj (Option.some.inj h)
    cases shared with
    | idle environment network => rfl
    | running session => exact @Session.settings_step session _ (.push delivery) _ rfl
  | advance ms =>
    obtain ⟨-, rfl⟩ := Prod.mk.inj (Option.some.inj h)
    cases shared with
    | idle environment network => rfl
    | running session => exact @Session.settings_step session _ (.advance ms) _ rfl
  | request request =>
    obtain ⟨⟨given, last⟩, hgiven, heq⟩ := Option.map_eq_some_iff.1 h
    obtain ⟨-, rfl⟩ := Prod.mk.inj heq
    have hstep := @Session.settings_step _ _ (.request request) _ hgiven
    rw [settings_session] at hstep
    cases shared <;> exact hstep

theorem settings_run {shared last : Shared} {steps : List Step} {answers : List Answer}
    (h : shared.run steps = some (answers, last)) : last.settings = shared.settings := by
  induction steps generalizing shared answers with
  | nil =>
    obtain ⟨-, rfl⟩ := Prod.mk.inj (Option.some.inj h)
    rfl
  | cons step rest ih =>
    rcases hstep : shared.step step with _ | ⟨answer, next⟩
    · rw [run_cons_of_none hstep] at h
      cases h
    · rw [run_cons_of_step hstep] at h
      obtain ⟨⟨others, reached⟩, hrest, heq⟩ := Option.map_eq_some_iff.1 h
      obtain ⟨-, rfl⟩ := Prod.mk.inj heq
      exact (ih hrest).trans (settings_step hstep)

end Shared

/-! ## All layers -/

namespace Settings

/-- What comes of a settings file and of the bytes in the variable, if it is set. -/
structure Layered (file : SettingsFile) (value : Option ByteArray) : Prop where
  /-- Loading succeeds just when there is no file or a good one, and the variable is unset, no text, or an
      address once the blanks around it are cut off. -/
  succeeds : (∃ settings, load (.ofBytes (some file) value) = .ok settings)
    ↔ (∃ base, file.settings? = some base)
      ∧ ∀ text ∈ value.bind String.fromUTF8?, ∃ ip, addressOf? text = some ip
  /-- The settings are the file's, and at most the address is the variable's. -/
  loaded : ∀ settings, load (.ofBytes (some file) value) = .ok settings →
    ∃ base, file.settings? = some base ∧ settings = { base with
      peerIp := ((value.bind String.fromUTF8?).bind addressOf?).getD base.peerIp }
  /-- Of a bad file it is the file's error, also when the variable is bad too. -/
  badFile : file.settings? = none →
    ∃ error, load (.ofBytes (some file) value) = .error error ∧ file.Blames error
  /-- Otherwise it is that of the variable. -/
  badVariable : ∀ base text, file.settings? = some base → value.bind String.fromUTF8? = some text →
    addressOf? text = none →
    load (.ofBytes (some file) value) = .error (.config (complaint text))

/-- What comes of values that are applied to settings one after the other. -/
structure AppliedInTurn (settings : Settings) (values : List (Option String)) : Prop where
  /-- In the end the settings differ at most in the address, which is that of the last value that was
      applied. -/
  final : settings.afterEach values
    = { settings with
        peerIp := (values.filterMap (·.bind addressOf?)).getLast?.getD settings.peerIp }
  length : (settings.applyEach values).length = values.length
  /-- Each outcome is that of one application, and the settings behind it are those that the values up to
      there leave. It succeeds unless there is a value without an address, and one that fails gives all
      settings back as they were. -/
  outcome : ∀ before value rest, values = before ++ value :: rest →
    ∃ outcome left, (settings.applyEach values)[before.length]? = some (outcome, left)
      ∧ left = settings.afterEach (before ++ [value])
      ∧ (outcome = .ok () ↔ ∀ text ∈ value, ∃ ip, addressOf? text = some ip)
      ∧ ∀ error, outcome = .error error → left = settings.afterEach before
        ∧ ∃ text, value = some text ∧ error = .config (complaint text)

/-- For every file and every value of the variable the layers come together as `Layered` says, and
    without a directory for such files loading fails. A session that a process shares has the loaded
    settings, or the defaults after any error, whatever is asked of it. Values that are applied to any
    settings in turn do as `AppliedInTurn` says. -/
theorem settings_layered :
    (∀ (file : SettingsFile) (value : Option ByteArray), Layered file value)
      ∧ (∀ value : Option ByteArray,
          load (.ofBytes none value) = .error (.config "Cannot find config directory"))
      ∧ (∀ environment network steps answers session,
          (Shared.idle environment network).run steps = some (answers, .running session) →
          session.settings = (load environment).toOption.getD {})
      ∧ ∀ (settings : Settings) (values : List (Option String)), AppliedInTurn settings values := by
  refine ⟨fun file value =>
      ⟨load_ok_iff rfl, fun settings => load_eq_ok rfl, @load_of_none (.ofBytes _ value) file rfl, ?_⟩,
    fun value => load_of_placeless rfl, ?_,
    fun settings values => ⟨afterEach_eq settings values, length_applyEach settings values, ?_⟩⟩
  · intro base text hfile htext haddress
    rw [@load_of_some (.ofBytes (some file) value) file rfl base hfile]
    show (base.applyVariable (value.bind String.fromUTF8?)).1.map _ = _
    rw [htext, applyVariable_of_junk base haddress]
    rfl
  · intro environment network steps answers session hrun
    rw [← Shared.settingsOrDefault_eq]
    exact Shared.settings_run hrun
  · rintro before value rest rfl
    refine ⟨_, _, getElem?_applyEach settings before value rest,
      (settings.afterEach_append_singleton before value).symm, applyVariable_ok_iff _ value, ?_⟩
    intro error herror
    obtain ⟨⟨text, hvalue, -, hcomplaint⟩, hkept⟩ := applyVariable_of_error herror
    exact ⟨hkept, text, hvalue, hcomplaint⟩

/-- The bytes of a text are that text. -/
theorem fromUTF8?_toUTF8 (s : String) : String.fromUTF8? s.toUTF8 = some s := by
  unfold String.fromUTF8?
  rw [String.toUTF8_eq_toByteArray, dif_pos s.isValidUTF8]
  rfl

/-- An address with blanks around it reaches a session that is started without a file. With a directory in
    the file's place the session has the defaults. Of three values that are applied in turn the second is
    refused, and gives back what the first has set. -/
theorem settings_layered_of_padded :
    let value := some " 10.0.0.7 ".toUTF8
    let values := [some " 10.0.0.7 ", some "10.0.0", none]
    let elsewhere : Settings := { peerIp := .v4 ⟨10, 0, 0, 7⟩ }
    load (.ofBytes (some .absent) value) = .ok elsewhere
      ∧ (∃ answers session, (Shared.idle (.ofBytes (some .absent) value) {}).run [.request .peer]
          = some (answers, .running session) ∧ session.settings = elsewhere)
      ∧ (∃ answers session, (Shared.idle (.ofBytes (some .directory) value) {}).run [.request .peer]
          = some (answers, .running session) ∧ session.settings = {})
      ∧ (applyEach {} values)[1]? = some (.error (.config (complaint "10.0.0")), elsewhere)
      ∧ afterEach {} values = elsewhere := by
  intro value values elsewhere
  obtain ⟨hlayered, -, hshared, happlied⟩ := settings_layered
  have haddress : addressOf? " 10.0.0.7 " = some (.v4 ⟨10, 0, 0, 7⟩) := by decide
  have hjunk : addressOf? "10.0.0" = none := by decide
  have htext : value.bind String.fromUTF8? = some " 10.0.0.7 " := fromUTF8?_toUTF8 _
  have hload : load (.ofBytes (some .absent) value) = .ok elsewhere := by
    have hgood : ∀ text ∈ value.bind String.fromUTF8?, ∃ ip, addressOf? text = some ip := by
      rw [htext]
      exact fun text hvalue => ⟨_, Option.mem_some.1 hvalue ▸ haddress⟩
    obtain ⟨settings, hsettings⟩ := (hlayered .absent value).succeeds.2 ⟨⟨{}, rfl⟩, hgood⟩
    obtain ⟨base, hbase, rfl⟩ := (hlayered .absent value).loaded settings hsettings
    obtain rfl := Option.some.inj hbase
    rw [hsettings, htext, Option.bind_some, haddress]
    rfl
  refine ⟨hload, ⟨_, _, rfl, ?_⟩, ⟨_, _, rfl, ?_⟩, ?_, ?_⟩
  · rw [hshared _ {} [.request .peer] _ _ rfl, hload]
    rfl
  · obtain ⟨error, herror, -⟩ := (hlayered .directory value).badFile rfl
    rw [hshared _ {} [.request .peer] _ _ rfl, herror]
    rfl
  · have hfirst : afterEach {} [some " 10.0.0.7 "] = elsewhere := by
      rw [(happlied {} _).final]
      simp [haddress, elsewhere]
    obtain ⟨outcome, left, hfound, -, hok, hfailed⟩ :=
      (happlied {} values).outcome [some " 10.0.0.7 "] (some "10.0.0") [none] rfl
    cases outcome with
    | ok _ =>
      obtain ⟨ip, hip⟩ := hok.1 rfl _ rfl
      rw [hjunk] at hip
      cases hip
    | error error =>
      obtain ⟨hkept, text, hvalue, rfl⟩ := hfailed error rfl
      obtain rfl := Option.some.inj hvalue
      rw [hkept, hfirst] at hfound
      exact hfound
  · rw [(happlied {} values).final]
    simp [haddress, hjunk, values, elsewhere]

end Settings

end PadLink
