import PadLink.Proofs.Session.Disguise

set_option autoImplicit false

/-! # Disguises of the network alone

A disguise that leaves the slots as they are, and hides nothing from the calls that begin a session or
ask for keystrokes, is `Faithful`. It commutes with every step and so with every run, and with opening a
session: what it changes in the network makes no difference to any answer from the start on
(`Faithful.on_run`, `Faithful.on_openWith`). -/

namespace PadLink.Disguise

open Session (knock launch openWith)

/-- A disguise of the network that not even a start or a keystroke query notices. -/
structure Faithful (d : Disguise) : Prop where
  slot : ∀ index s, d.slot index s = s
  note : ∀ network event, event.isSend = false →
    d.network (network.note event) = (d.network network).note event
  probe : ∀ network peer, d.network (network.transmit peer .probe (.probeFailed peer))
    = (d.network network).transmit peer .probe (.probeFailed peer)
  bind : ∀ network, (d.network network).obstacles.bind = network.obstacles.bind
  timeout : ∀ network, (d.network network).obstacles.timeout = network.obstacles.timeout
  spawn : ∀ network, (d.network network).obstacles.spawn = network.obstacles.spawn

namespace Faithful

variable {d : Disguise} (h : d.Faithful) (session : Session)

include h

theorem on_eq : d.on session = { session with network := d.network session.network } := by
  have hbank : d.bank session.bank = session.bank :=
    Bank.ext (fun index => (d.slot_bank session.bank index).trans (h.slot index _)) rfl
  rw [on, hbank]

/-! ## Steps -/

theorem on_nextKeystroke (selector : Selector) :
    (d.on session).nextKeystroke selector
      = ((session.nextKeystroke selector).1, d.on (session.nextKeystroke selector).2) := by
  have hbank : (d.on session).bank = session.bank := by rw [h.on_eq]
  unfold Session.nextKeystroke
  cases Session.selected selector with
  | error error => rfl
  | ok slots =>
    dsimp only
    rw [hbank]
    cases (Bank.firstKeystroke slots session.bank).1 with
    | none => simp only [h.on_eq, Option.elim]
    | some report => simp only [h.on_eq, Option.elim, Session.note, h.note _ (.keystroke report) rfl]

theorem on_step (step : Step) : d.outcome (session.step step) = (d.on session).step step := by
  cases step with
  | push delivery => exact Disguise.on_step d session rfl
  | advance ms => exact Disguise.on_step d session rfl
  | request request =>
    cases request with
    | enable on => simp only [Session.step, Session.answer, outcome, Option.map_some, h.on_eq,
        Session.enable]
    | status index => simp only [Session.step, Session.answer, outcome, Option.map_some, h.on_eq,
        Session.status]
    | keystroke selector =>
      simp only [Session.step, Session.answer, h.on_nextKeystroke]
      rfl
    | _ => exact Disguise.on_step d session rfl

theorem on_run (steps : List Step) : d.outcome (session.run steps) = (d.on session).run steps := by
  induction steps generalizing session with
  | nil => rfl
  | cons step rest ih =>
    rw [Session.run, Session.run, ← h.on_step]
    rcases session.step step with _ | ⟨answer, next⟩
    · rfl
    · show d.outcome ((next.run rest).bind _) = ((d.on next).run rest).bind _
      rw [← ih next]
      rcases next.run rest with _ | ⟨answers, last⟩ <;> rfl

/-! ## The beginning -/

section

omit session

variable (settings : Settings) (peer : SocketAddress) (network : Network)

theorem network_knock :
    d.network (knock settings peer network) = knock settings peer (d.network network) := by
  unfold knock
  rw [h.timeout]
  dsimp only
  rw [h.probe]
  split
  · rw [h.note _ _ rfl, h.note _ _ rfl]
  · rw [h.note _ _ rfl]

theorem on_launch : d.on (launch settings peer network) = launch settings peer (d.network network) := by
  unfold launch
  rw [on_beginRound, h.on_eq, h.timeout, ← h.note _ _ rfl]

theorem on_openWith :
    d.on (openWith settings peer network) = openWith settings peer (d.network network) := by
  have hunopened : ∀ before error, d.on (Session.unopened settings peer before error)
      = Session.unopened settings peer (d.network before) error := by
    intro before error
    rw [h.on_eq, Session.unopened, Session.unopened, h.timeout, ← h.note _ _ rfl]
  unfold openWith
  rw [h.bind]
  split
  · rw [hunopened, h.note _ _ rfl]
  · dsimp only
    rw [← h.network_knock, h.spawn]
    split
    · exact hunopened _ _
    · rw [on_awaitHandshake, h.on_launch]

end

end Faithful

end PadLink.Disguise
