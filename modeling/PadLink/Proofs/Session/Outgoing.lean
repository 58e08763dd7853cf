import PadLink.Proofs.Session.Course
import PadLink.Proofs.Session.Motors

set_option autoImplicit false

/-! # What goes out in a run

All that a session tries to send is the probe and then one poll at the beginning of each round, to its
server and with the motor speeds of the commands before it (`Outgoing`). Which of the sends fail makes no
difference to anything but that those datagrams do not go out (`Spares`). `sends_of_run` says both of
every run of a session with an exchange, also of its end when it is closed then. A caller that waits in
vain lets time pass like one that says so, so the sends during an endless wait are those of the runs that
let time pass instead. -/

namespace PadLink

/-- The network in which the sends with the listed ordinals are to fail. -/
def Network.withFailing (network : Network) (failing : List Nat) : Network :=
  { network with obstacles := { network.obstacles with sends := failing } }

namespace Session

/-- What goes out of a session that was opened on the given network, with the given commands of its
    callers, the latest first. -/
structure Outgoing (peer : SocketAddress) (network : Network) (commands : List Command)
    (session : Session) : Prop where
  /-- The attempts are the probe, at once, and the polls. -/
  attempts : attempts session.network.journal
    = attempts network.journal ++ (network.now, peer, .probe) :: session.polls
  /-- Those went out whose ordinals are not to fail. -/
  delivered : delivered session.network.journal = delivered network.journal
    ++ surviving network.obstacles.sends network.sends ((network.now, peer, .probe) :: session.polls)
  /-- The first round begins at once with a poll. -/
  first : ∃ datagram, session.marks.getLast? = some (network.now, .poll peer datagram)
  /-- Each round has one poll, at its beginning. -/
  course : session.OnCourse
  /-- The commands stand in the journal. -/
  commands : commandsOf session.entries = commands
  /-- Every poll carries the speeds of the commands before it. -/
  carries : ∀ later entry earlier receiver datagram, session.entries = later ++ entry :: earlier →
    entry.event.mark? = some (.poll receiver datagram) →
      receiver = peer ∧ datagram.Carries (speedsAfter (commandsOf earlier))

/-- The other session is the same in everything but that other sends failed: what went out is what is
    left of the same attempts. -/
structure Spares (peer : SocketAddress) (network : Network) (failing : List Nat)
    (session other : Session) : Prop where
  smooth : other.smooth = session.smooth
  bank : other.bank = session.bank
  attempts : PadLink.attempts other.network.journal = PadLink.attempts session.network.journal
  delivered : PadLink.delivered other.network.journal = PadLink.delivered network.journal
    ++ surviving failing network.sends ((network.now, peer, .probe) :: session.polls)

/-- The first mark stays the first. -/
theorem Move.getLast?_marks {before after : Session} {first : Nat × Mark} (h : Move before after)
    (hbefore : before.marks.getLast? = some first) : after.marks.getLast? = some first := by
  rcases h.beat_or_idle with ⟨time, -, hbeat, -⟩ | hidle
  · obtain ⟨fresh, hmarks, -⟩ := hbeat.fresh
    have hkept : (before.atTime time).marks.getLast? = some first := hbefore
    rw [hmarks, List.getLast?_append, hkept]
    rfl
  · rw [hidle.marks, hbefore]

section

variable {settings : Settings} {peer : SocketAddress} {network : Network} {steps : List Step}
variable {answers : List Answer} {last : Session} (hbind : network.obstacles.bind = none)
variable (hspawn : network.obstacles.spawn = none)
variable (hrun : (openWith settings peer network).run steps = some (answers, last))

include hbind hspawn hrun

theorem getLast?_marks_of_run {session : Session} (hsession : session = last ∨ session = last.close) :
    session.marks.getLast? = some (network.now, .poll peer (.poll ({} : Bank).vibrations)) := by
  obtain ⟨-, hnow, -, -⟩ := attempts_knock settings peer network
  refine openWith_induction (P := fun session => session.marks.getLast?
    = some (network.now, .poll peer (.poll ({} : Bank).vibrations)))
    (fun _ _ hmove hbefore => hmove.getLast?_marks hbefore) ?_ hbind hspawn ?_ hrun hsession
  · intro session selector hbefore
    rw [(idle_nextKeystroke session selector).marks, hbefore]
  · rw [marks_launch, hnow]
    rfl

omit hrun in
theorem commandsOf_openWith : commandsOf (openWith settings peer network).entries = [] := by
  rw [openWith_of_unobstructed hbind hspawn, commandsOf_awaitHandshake]
  exact (driven_launch settings peer _).2

theorem outgoing_of_run {session : Session} (hsession : session = last ∨ session = last.close) :
    session.Outgoing peer network (issued steps answers) := by
  have hopened : Reachable (openWith settings peer network) := .opened hbind hspawn
  have hreachable : Reachable session := by
    rcases hsession with rfl | rfl
    · exact hopened.run hrun
    · exact (hopened.run hrun).closed
  obtain ⟨hpeer, hattempts, hdelivered⟩ := attempts_of_run hbind hspawn hrun hsession
  refine ⟨hattempts, hdelivered, ⟨_, getLast?_marks_of_run hbind hspawn hrun hsession⟩,
    hreachable.attained.onCourse, ?_, ?_⟩
  · have hcommands : commandsOf last.entries = issued steps answers := by
      rw [commandsOf_run hrun, commandsOf_openWith hbind hspawn, List.append_nil]
    rcases hsession with rfl | rfl
    · exact hcommands
    · rw [commandsOf_close, hcommands]
  · intro later entry earlier receiver datagram hentries hmark
    have hfollowed := hreachable.driven.polls
    rw [hentries, hpeer] at hfollowed
    exact hfollowed.poll hmark

/-- Two runs that are the same without failing sends make the same attempts. -/
theorem spares_of_smooth {failing : List Nat} {other session twin : Session}
    (hother : (openWith settings peer (network.withFailing failing)).run steps
      = some (answers, other))
    (hsession : session = last ∨ session = last.close) (htwin : twin = other ∨ twin = other.close)
    (hsmooth : twin.smooth = session.smooth) : session.Spares peer network failing twin := by
  have hattempts : attempts twin.network.journal = attempts session.network.journal := by
    rw [← attempts_smooth, ← attempts_smooth session.network.journal]
    exact congrArg (fun smooth => attempts smooth.network.journal) hsmooth
  obtain ⟨-, htried, -⟩ := attempts_of_run hbind hspawn hrun hsession
  have hbind : (network.withFailing failing).obstacles.bind = none := hbind
  have hspawn : (network.withFailing failing).obstacles.spawn = none := hspawn
  obtain ⟨-, hretried, hdelivered⟩ := attempts_of_run hbind hspawn hother htwin
  have hpolls : twin.polls = session.polls := by
    have hsame := hretried.symm.trans (hattempts.trans htried)
    exact (List.cons.inj (List.append_cancel_left hsame)).2
  refine ⟨hsmooth, congrArg (fun smooth => smooth.bank) hsmooth, hattempts, ?_⟩
  rw [hdelivered, hpolls]
  rfl

/-- The same run with other failing sends. -/
theorem spares_of_run (failing : List Nat) : ∃ other,
    (openWith settings peer (network.withFailing failing)).run steps = some (answers, other)
      ∧ last.Spares peer network failing other ∧ last.close.Spares peer network failing other.close := by
  have hnetwork : (network.withFailing failing).smooth = network.smooth := rfl
  have houtcome : smoothOutcome ((openWith settings peer (network.withFailing failing)).run steps)
      = some (answers, last.smooth) := by
    rw [smooth_run, smooth_openWith, hnetwork, ← smooth_openWith, ← smooth_run, hrun]
    rfl
  obtain ⟨⟨found, other⟩, hother, heq⟩ := Option.map_eq_some_iff.1 houtcome
  obtain ⟨rfl, hlast⟩ := Prod.mk.inj heq
  refine ⟨other, hother, ?_, ?_⟩
  · exact spares_of_smooth hbind hspawn hrun hother (Or.inl rfl) (Or.inl rfl) hlast
  · refine spares_of_smooth hbind hspawn hrun hother (Or.inr rfl) (Or.inr rfl) ?_
    rw [smooth_close, hlast, smooth_close]

end

/-- In a run of a session with an exchange the attempts to send are the probe, which is the byte 1 with
    zeros behind it, and one poll in each round, which carries the motor speeds of the last commands
    that succeeded before it; a command that fails changes nothing. With other failing sends the run is
    the same but for the datagrams that do not go out. -/
theorem sends_of_run {settings : Settings} {peer : SocketAddress} {network : Network}
    {steps : List Step} {answers : List Answer} {last : Session}
    (hbind : network.obstacles.bind = none) (hspawn : network.obstacles.spawn = none)
    (hrun : (openWith settings peer network).run steps = some (answers, last)) :
    (∀ session, session = last ∨ session = last.close →
        session.Outgoing peer network (issued steps answers))
      ∧ (Datagram.probe[0]? = some 1 ∧ ∀ i, 0 < i → i < 44 → Datagram.probe[i]? = some 0)
      ∧ (∀ index vibration error, (last.setVibration index vibration).1 = .error error →
        (last.setVibration index vibration).2 = last)
      ∧ ∀ failing, ∃ other,
        (openWith settings peer (network.withFailing failing)).run steps = some (answers, other)
          ∧ last.Spares peer network failing other
          ∧ last.close.Spares peer network failing other.close := by
  refine ⟨fun session hsession => outgoing_of_run hbind hspawn hrun hsession, ⟨?_, ?_⟩, ?_,
    spares_of_run hbind hspawn hrun⟩
  · simp [Datagram.probe, Datagram.connectionHeader]
  · intro i hpos hi
    rw [Vector.getElem?_eq_getElem hi]
    simp only [Datagram.probe, Vector.getElem_ofFn]
    rw [if_neg (by omega)]
  · intro index vibration error herror
    rcases commands_or_eq last index vibration with ⟨slot, -, hdone, -⟩ | ⟨-, heq⟩
    · rw [hdone] at herror
      cases herror
    · exact heq

/-- A network in which the second poll fails. -/
def rumbleNetwork : Network := { obstacles := { sends := [2] } }

/-- The motors of one slot are set, and then those of a slot that does not exist. -/
def rumbleSteps : List Step :=
  [.request (.setVibration 1 ⟨514, 65535⟩), .advance 5000, .request (.setVibration 4 ⟨0, 0⟩)]

/-- A run with a server that is silent. -/
def rumbleRun : Option (List Answer × Session) :=
  (openWith { handshakeWaitMs := 0 } (.v4 IPv4.localhost 0) rumbleNetwork).run rumbleSteps

theorem sends_of_rumbleRun : ∃ answers last, rumbleRun = some (answers, last)
    ∧ last.Outgoing (.v4 IPv4.localhost 0) rumbleNetwork [(1, ⟨514, 65535⟩)]
    ∧ (delivered last.network.journal).map Prod.fst = [0, 0, 4000] := by
  have hend : rumbleRun.any (fun outcome =>
      decide (issued rumbleSteps outcome.1 = [(1, ⟨514, 65535⟩)]
        ∧ (delivered outcome.2.network.journal).map Prod.fst = [0, 0, 4000])) = true := by
    decide +kernel
  obtain ⟨⟨answers, last⟩, hrun, hlast⟩ := (Option.any_eq_true _ _).1 hend
  obtain ⟨hissued, htimes⟩ := of_decide_eq_true hlast
  obtain ⟨houtgoing, -, -, -⟩ := sends_of_run rfl rfl hrun
  have hsends := houtgoing last (Or.inl rfl)
  rw [hissued] at hsends
  exact ⟨answers, last, hrun, hsends, htimes⟩

end Session

end PadLink
