import PadLink.Json.Network
import PadLink.Json.Printer
import PadLink.Monitor

set_option autoImplicit false

/-! # The command line

Runs the monitor over a network that was written down beforehand: the network is read from standard
input as one JSON record, whose `stop_at` is the time at which the monitor is ended. The settings
are those of the user. Every line that the monitor prints is a JSON record. -/

namespace PadLink.CommandLine

/-- The directory of the user's settings files. -/
def settingsDirectory : IO (Option String) := do
  let home := (← IO.getEnv "HOME").filter fun s => !s.isEmpty
  return ((← IO.getEnv "XDG_CONFIG_HOME").filter fun s => s.startsWith "/").or
    (home.map fun s => s ++ "/.config")

/-- What stands at the path of a settings file. -/
def fileAt (path : String) : IO SettingsFile := do
  -- A path that does not resolve is absent, for whatever reason.
  try discard (IO.FS.realPath path)
  catch _ => return .absent
  try
    return .ofBytes (← IO.FS.readBinFile path)
  catch
    | .inappropriateType .. => return .directory
    | .permissionDenied _ code details =>
      return .unreadable (details ++ " (os error " ++ Digits.decimal code.toNat ++ ")")
    | error => return .unreadable (toString error)

/-- The user's environment. -/
def environment : IO Environment := do
  let file ← (← settingsDirectory).mapM fun directory => fileAt (directory ++ "/netpad/config.json")
  return { file := file, peerIp := ← IO.getEnv Settings.peerIpVariable }

/-- Print what the monitor does in a network up to a time, and give its exit code. -/
def monitor (network : Network) (stopAt : Nat) : IO UInt32 := do
  let (notes, ending) := Monitor.run (← environment) network stopAt
  for line in notes.filterMap Monitor.Note.toJson? do
    IO.println line.render
  return UInt32.ofNat ending.exitCode

end PadLink.CommandLine

/-- Read a network and run the monitor in it. -/
def main : IO UInt32 := do
  let text ← (← IO.getStdin).readToEnd
  let record := PadLink.Json.parse? text
  match record.bind PadLink.Network.ofJson?, record.bind (PadLink.Json.natMember? "stop_at") with
  | some network, some stopAt => PadLink.CommandLine.monitor network stopAt
  | _, _ =>
    IO.eprintln "The input is no record of a network."
    return 2
