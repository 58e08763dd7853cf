import PadLink.Error
import PadLink.Json.Reader
import PadLink.Settings.Basic
import PadLink.Text.Blank
import PadLink.Text.Quoted

set_option autoImplicit false

/-! # Loading settings

Settings come in three layers: the defaults, the user's file, and one environment variable that
replaces the address of the input server and nothing else. A missing file is no error; a file that
cannot be read or has no meaning is, and so is a user without a directory for such files. After an
error the variable is not looked at. A variable whose value is not text counts as unset. -/

namespace PadLink

/-- What stands at the place of a settings file. -/
inductive SettingsFile where
  | absent
  | directory
  /-- A file that cannot be opened, for the given reason. -/
  | unreadable (detail : String)
  /-- A file whose bytes are no text. -/
  | undecodable
  | text (content : String)

/-- The file with the given bytes. -/
def SettingsFile.ofBytes (bytes : ByteArray) : SettingsFile :=
  match String.fromUTF8? bytes with
  | some content => .text content
  | none => .undecodable

/-- What a session finds around it when it starts: the place of the user's settings file, if the user
    has a directory for such files, and the environment variable for the server's address, if it is
    set to text. -/
structure Environment where
  file : Option SettingsFile := some .absent
  peerIp : Option String := none

namespace Environment

/-- The environment around the place of a settings file, with the variable set to the given bytes, if
    it is set at all. -/
def ofBytes (file : Option SettingsFile) (value : Option ByteArray) : Environment where
  file := file
  peerIp := value.bind String.fromUTF8?

/-- The place of the user's settings file. -/
def userFile (environment : Environment) : Except Error SettingsFile :=
  match environment.file with
  | some file => .ok file
  | none => .error (.config "Cannot find config directory")

end Environment

namespace Settings

/-- The environment variable for the server's address. -/
def peerIpVariable : String := "MICEWINE_JOYSTICK_SERVER_IP"

/-- Read a settings file that must be there. -/
def ofFile : SettingsFile → Except Error Settings
  | .absent => .error (.io "No such file or directory (os error 2)")
  | .directory => .error (.io "Is a directory (os error 21)")
  | .unreadable detail => .error (.io detail)
  | .undecodable => .error (.io "stream did not contain valid UTF-8")
  | .text content =>
    match (Json.parse? content).bind ofJson? with
    | some settings => .ok settings
    | none => .error .json

theorem ofFile_text (content : String) :
    ofFile (.text content)
      = ((Json.parse? content).bind ofJson? : Option Settings).elim (.error .json) .ok := by
  rw [ofFile]
  cases ((Json.parse? content).bind ofJson? : Option Settings) <;> rfl

/-- Replace the server's address by the variable's, if that is set. Blanks around it do not count. The
    settings are there in either case. -/
def applyVariable (settings : Settings) : Option String → Except Error Unit × Settings
  | none => (.ok (), settings)
  | some value =>
    match IpAddress.ofText? (trimBlanks value.toList) with
    | some ip => (.ok (), { settings with peerIp := ip })
    | none =>
      let assignment := peerIpVariable ++ "=" ++ Quoted.quote value
      (.error (.config (assignment ++ ": invalid IP address syntax")), settings)

/-- Apply one value after the other, and give the outcome of each with the settings behind it. -/
def applyEach (settings : Settings) : List (Option String) → List (Except Error Unit × Settings)
  | [] => []
  | value :: rest =>
    let applied := settings.applyVariable value
    applied :: applied.2.applyEach rest

/-- The settings of the user's file, or the defaults if there is none. -/
def ofUserFile : SettingsFile → Except Error Settings
  | .absent => .ok {}
  | file => ofFile file

/-- The settings that hold in an environment. -/
def load (environment : Environment) : Except Error Settings := do
  let settings ← ofUserFile (← environment.userFile)
  let (outcome, settings) := settings.applyVariable environment.peerIp
  outcome
  return settings

end Settings

end PadLink
