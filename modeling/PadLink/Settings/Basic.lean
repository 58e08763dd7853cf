import PadLink.Address.Reader
import PadLink.Json.Form

set_option autoImplicit false

/-! # Settings

How a session finds its input server and how patient it is. All times are milliseconds. In a
settings file every member may be missing, and then its default holds.

Two of the stored times are not used as they stand: a receive never waits less than a millisecond,
and a waiting caller looks again at least twice within the readiness pulse, so that it cannot sleep
through it. -/

namespace PadLink

/-- The settings of a session, as a file holds them. -/
structure Settings where
  /-- The address of the input server. -/
  peerIp : IpAddress := .v4 .localhost
  /-- The local address that the session binds. -/
  bindAddress : SocketAddress := .v4 .unspecified 0
  /-- How long the start waits for the handshake. -/
  handshakeWaitMs : UInt64 := 2000
  /-- How long one receive waits. -/
  receiveTimeoutMs : UInt64 := 2000
  /-- How many silent receives in a row are tolerated. -/
  toleratedTimeouts : UInt32 := 60
  /-- How long readiness is pulsed after an outage. -/
  readyPulseMs : UInt64 := 250
  /-- How often a waiting caller looks whether the session is ready. -/
  readyPollMs : UInt64 := 125
  /-- How long a caller waits for readiness at most. -/
  readyTimeoutMs : Option UInt64 := none
  deriving DecidableEq, Repr

namespace Settings

/-- The port of every input server. -/
def peerPort : UInt16 := 7941

/-- The input server's socket address. -/
def peer (settings : Settings) : SocketAddress := .ofIp peerPort settings.peerIp

/-- How long the start waits for the handshake. -/
def handshakeWait (settings : Settings) : Nat := settings.handshakeWaitMs.toNat

/-- How long one receive waits: at least a millisecond. -/
def receiveTimeout (settings : Settings) : Nat := max 1 settings.receiveTimeoutMs.toNat

theorem receiveTimeout_pos (settings : Settings) : 0 < settings.receiveTimeout := by
  unfold receiveTimeout
  omega

/-- How long readiness is pulsed after an outage. -/
def readyPulse (settings : Settings) : Nat := settings.readyPulseMs.toNat

/-- How often a waiting caller looks: at most half the pulse apart, and at least a millisecond. -/
def readyPoll (settings : Settings) : Nat :=
  max 1 (min settings.readyPollMs.toNat (settings.readyPulse / 2))

theorem readyPoll_pos (settings : Settings) : 0 < settings.readyPoll := by
  unfold readyPoll
  omega

/-- A caller that looks this often sees every pulse there is. -/
theorem readyPoll_le_readyPulse (settings : Settings) (h : 0 < settings.readyPulse) :
    settings.readyPoll ≤ settings.readyPulse := by
  unfold readyPoll
  omega

/-- How long a caller waits for readiness at most. -/
def readyTimeout (settings : Settings) : Option Nat := settings.readyTimeoutMs.map UInt64.toNat

/-- The names of the settings in a file. -/
def names : List String :=
  ["peer_ip", "bind_addr", "handshake_wait_ms", "recv_timeout_ms", "max_consecutive_timeouts",
   "ready_flash_ms", "ready_poll_ms", "ready_timeout_ms"]

end Settings

/-! ## Settings as JSON -/

instance : JsonForm IpAddress where
  toJson address := .text address.render
  ofJson? json := json.text?.bind fun s => IpAddress.ofText? s.toList

instance : JsonForm SocketAddress where
  toJson address := .text address.render
  ofJson? json := json.text?.bind fun s => SocketAddress.ofText? s.toList

/-- A member of a record that may be missing, with its default. -/
def memberOr {α : Type} [JsonForm α] (default : α) : Option Json → Option α
  | none => some default
  | some json => ofJson? json

instance : JsonForm Settings where
  toJson settings := .record (Settings.names.zip
    [toJson settings.peerIp, toJson settings.bindAddress, toJson settings.handshakeWaitMs,
     toJson settings.receiveTimeoutMs, toJson settings.toleratedTimeouts,
     toJson settings.readyPulseMs, toJson settings.readyPollMs, toJson settings.readyTimeoutMs])
  ofJson? json := do
    let standard : Settings := {}
    match ← json.fields? Settings.names with
    | [peerIp, bindAddress, handshakeWait, receiveTimeout, tolerated, pulse, poll, timeout] =>
      return {
        peerIp := ← memberOr standard.peerIp peerIp
        bindAddress := ← memberOr standard.bindAddress bindAddress
        handshakeWaitMs := ← memberOr standard.handshakeWaitMs handshakeWait
        receiveTimeoutMs := ← memberOr standard.receiveTimeoutMs receiveTimeout
        toleratedTimeouts := ← memberOr standard.toleratedTimeouts tolerated
        readyPulseMs := ← memberOr standard.readyPulseMs pulse
        readyPollMs := ← memberOr standard.readyPollMs poll
        readyTimeoutMs := ← memberOr standard.readyTimeoutMs timeout }
    | _ => none

end PadLink
