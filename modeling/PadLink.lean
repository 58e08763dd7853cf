import PadLink.Main
import PadLink.Proofs.Bank.Keys
import PadLink.Proofs.Session.HeldKeys
import PadLink.Proofs.Session.Readiness
import PadLink.Proofs.Session.Attained
import PadLink.Proofs.Session.Outage
import PadLink.Proofs.Session.Silence
import PadLink.Proofs.Session.Looks
import PadLink.Proofs.Session.Pulse
import PadLink.Proofs.Session.Journal
import PadLink.Proofs.Session.Queries
import PadLink.Proofs.Session.Smooth
import PadLink.Proofs.Session.Course
import PadLink.Proofs.Session.Sends
import PadLink.Proofs.Session.Motors
import PadLink.Proofs.Session.Outgoing
import PadLink.Proofs.Session.Unopened
import PadLink.Proofs.Session.Closing
import PadLink.Proofs.Session.Veil
import PadLink.Proofs.Session.Invisible
import PadLink.Proofs.Session.Gone
import PadLink.Proofs.Keystroke.Drain
import PadLink.Proofs.Json.Forms
import PadLink.Proofs.Session.Sharing
import PadLink.Proofs.Monitor
import PadLink.Proofs.Session.Framing
import PadLink.Proofs.Session.Limits
import PadLink.Proofs.Session.Wildcard
import PadLink.Proofs.Session.PollRate
import PadLink.Proofs.Settings.Layers
import PadLink.Proofs.Wire.Decoding
import PadLink.Proofs.Settings.Partial
import PadLink.Proofs.Session.Handshake
import PadLink.Proofs.Bank.Vacating
