import PadLink.Proofs.Session.Heard

set_option autoImplicit false

/-! # What readiness means

The readiness flag is written in three places: a state reply raises it, and an outage raises it for
the length of its pulse and then clears it. So the flag is up in two situations, during a pulse and
when the server has answered since the last outage (`Session.answered`), and only in the second can a
slot be connected (`ready_iff_answered`). A pulse of no length is over before any caller runs, and a
reply that comes in during a pulse waits in the inbox until the pulse has ended, so it is not lost to
the clearing of the flag. -/

namespace PadLink.Session

/-- Whether a state reply was taken in since the last outage, or else since the exchange began. -/
def answered (session : Session) : Prop :=
  ∃ datagram, some datagram ∈ session.heard.takeWhile Option.isSome

theorem answered_of_reply {session : Session} {datagram : Datagram} {rest : List (Option Datagram)}
    (h : session.heard = some datagram :: rest) : session.answered :=
  ⟨datagram, by rw [h, List.takeWhile_cons_of_pos rfl]; exact List.mem_cons_self⟩

theorem not_answered_of_outage {session : Session} {rest : List (Option Datagram)}
    (h : session.heard = none :: rest) : ¬session.answered := by
  rintro ⟨datagram, hmem⟩
  rw [h, List.takeWhile_cons_of_neg (by simp)] at hmem
  cases hmem

theorem answered_congr {session other : Session} (h : session.heard = other.heard) :
    session.answered ↔ other.answered := by
  rw [answered, answered, h]

/-- The flag is as it was heard, but for a pulse, and a pulse follows on an outage. -/
structure Announced (session : Session) : Prop where
  pulse : session.pulses = true → session.bank.ready = true ∧ ∃ rest, session.heard = none :: rest
  steady : session.pulses = false → (session.bank.ready = true ↔ session.answered)

theorem announced_launch (settings : Settings) (peer : SocketAddress) (network : Network) :
    (launch settings peer network).Announced := by
  have hpulses : (launch settings peer network).pulses = false := pulses_beginRound _
  have hready : (launch settings peer network).bank.ready = false :=
    congrArg Bank.ready (bank_beginRound _)
  refine ⟨fun hpulse => absurd (hpulses.symm.trans hpulse) (by decide), fun _ => ?_⟩
  simp [hready, answered, heard_launch]

theorem Calm.announced {before after : Session} (h : before.Calm after)
    (hbefore : before.Announced) : after.Announced := by
  obtain ⟨hpulse, hsteady⟩ := hbefore
  rw [← h.pulses, ← h.ready, ← h.heard] at hpulse
  rw [← h.pulses, ← h.ready, ← answered_congr h.heard] at hsteady
  exact ⟨hpulse, hsteady⟩

theorem Turn.announced {before after : Session} (h : Turn before after)
    (hbefore : before.Announced) : after.Announced := by
  cases h with
  | calm hcalm _ => exact hcalm.announced hbefore
  | reply datagram hheard _ hafter hbank =>
    have hready : after.bank.ready = true := by rw [hbank, Bank.ready_applyReply]
    refine ⟨fun hpulse => absurd (hafter.symm.trans hpulse) (by decide), fun _ => ?_⟩
    exact iff_of_true hready (answered_of_reply hheard)
  | outage hheard _ hbank =>
    have hready : after.bank.ready = after.pulses := congrArg Bank.ready hbank
    refine ⟨fun hpulse => ⟨hready.trans hpulse, _, hheard⟩, fun hquiet => ?_⟩
    rw [hready, hquiet]
    exact iff_of_false Bool.false_ne_true (not_answered_of_outage hheard)
  | pulseEnd hheard hpulse hafter hbank =>
    have hready : after.bank.ready = false := congrArg Bank.ready hbank
    -- The pulse follows on an outage, and nothing was heard while it lasted.
    obtain ⟨-, rest, hrest⟩ := hbefore.pulse hpulse
    refine ⟨fun hpulse => absurd (hafter.symm.trans hpulse) (by decide), fun _ => ?_⟩
    rw [hready]
    exact iff_of_false Bool.false_ne_true (not_answered_of_outage (hheard.trans hrest))

theorem Reachable.announced {session : Session} (h : Reachable session) : session.Announced :=
  Reachable.induction announced_launch (fun _ _ hmove => hmove.turn.announced)
    (fun session selector => (calm_nextKeystroke session selector).announced) h

/-- Wherever a caller runs, the flag is up exactly during a pulse and after an answer since the last
    outage; no slot is connected during a pulse, and none when the flag is down. -/
theorem ready_iff_answered {session : Session} (h : Reachable session) :
    (session.bank.ready = true ↔ session.pulses = true ∨ session.answered)
      ∧ (session.pulses = true → ∀ slot, (session.bank.slot slot).connected = false)
      ∧ (∀ slot, (session.bank.slot slot).connected = true → session.bank.ready = true)
      ∧ (session.bank.ready = false → ∀ slot, (session.bank.slot slot).connected = false) := by
  have hannounced := h.announced
  have hready : session.bank.ready = true ↔ session.pulses = true ∨ session.answered := by
    cases hpulses : session.pulses with
    | true => simp [(hannounced.pulse hpulses).1]
    | false => simp [hannounced.steady hpulses]
  have hconnected : ∀ slot, (session.bank.slot slot).connected = true → session.answered := by
    intro slot hslot
    obtain ⟨datagram, rest, hheard, -⟩ := h.heard_of_connected hslot
    exact answered_of_reply hheard
  refine ⟨hready, ?_, fun slot hslot => hready.2 (Or.inr (hconnected slot hslot)), ?_⟩
  · intro hpulse slot
    obtain ⟨-, rest, hrest⟩ := hannounced.pulse hpulse
    exact Bool.eq_false_iff.2 fun hslot => not_answered_of_outage hrest (hconnected slot hslot)
  · intro hdown slot
    refine Bool.eq_false_iff.2 fun hslot => ?_
    rw [hready.2 (Or.inr (hconnected slot hslot))] at hdown
    cases hdown

/-- A session in the pulse behind an outage: the server showed a controller once and fell silent. -/
def pulsingSession : Session :=
  openWith { handshakeWaitMs := 5, receiveTimeoutMs := 1, toleratedTimeouts := 1, readyPulseMs := 20 }
    (.v4 IPv4.localhost 0) { inbox := [⟨1, .payload [2, 1, 1, 0, 0, 0, 128, 128, 128, 0, 0]⟩] }

theorem ready_in_pulse : pulsingSession.pulses = true ∧ pulsingSession.bank.ready = true
    ∧ ∀ slot, (pulsingSession.bank.slot slot).connected = false := by
  have hpulses : pulsingSession.pulses = true := by decide +kernel
  obtain ⟨hready, hvacant, -, -⟩ := ready_iff_answered (.opened rfl rfl : Reachable pulsingSession)
  exact ⟨hpulses, hready.2 (Or.inl hpulses), hvacant hpulses⟩

end PadLink.Session
