import PadLink.Monitor
import PadLink.Proofs.Bank.Pending
import PadLink.Proofs.Session.Armed
import PadLink.Proofs.Session.HeldKeys
import PadLink.Proofs.Session.Unopened

set_option autoImplicit false

/-! # What the monitor prints

The notes of the monitor are a list of dumps, with keystrokes in between. Whatever the network does, the
states in a dump are those of connected and enabled slots in ascending order, a second lies between the
beginnings of two dumps, and the keystrokes alternate per key (`monitor_run`). By itself the monitor ends
in two ways only: there is no session, which shows at the first dump, or the settings limit the wait for
readiness.

What a round relies on is that the exchange goes on, that slots with a controller are enabled, and that
the bank is in step with the keystrokes so far (`Watches`); every request of a round keeps this. What it
adds to the notes keeps them `Orderly`, so the rest of the loop is an induction over rounds.

The two loops of the monitor are bounded here, and neither bound is reached: a drain ends when nothing is
pending any more (`drain_complete`), and the process ends before the rounds do (`run_ne_unfinished`). -/

namespace PadLink.Monitor

open Keystroke (actionsFor alternation)
open Bank (Tallied)

/-! ## Reading notes -/

/-- The keystroke that a note prints. -/
def Note.keystroke? : Note → Option Keystroke
  | keystroke report => some report
  | _ => none

/-- The keystrokes that were printed, the latest first. -/
def keystrokes (notes : List Note) : List Keystroke := (notes.filterMap Note.keystroke?).reverse

/-- The slots whose states were printed before a next dump began. -/
def shown : List Note → List SlotStatus
  | [] => []
  | .dump _ :: _ => []
  | .keystroke _ :: rest => shown rest
  | .slot status _ :: rest => status :: shown rest

/-- The dumps, each with the time of its beginning and with the slots whose states it printed. -/
def dumps : List Note → List (Nat × List SlotStatus)
  | [] => []
  | .dump time :: rest => (time, shown rest) :: dumps rest
  | .keystroke _ :: rest => dumps rest
  | .slot _ _ :: rest => dumps rest

theorem keystrokes_append (notes more : List Note) :
    keystrokes (notes ++ more) = keystrokes more ++ keystrokes notes := by
  simp [keystrokes]

section

variable {front : List Note} (h : ∀ note ∈ front, ∃ report, note = .keystroke report)

include h

/-- Keystrokes do not show in the dumps. -/
theorem dumps_of_keystrokes (rest : List Note) :
    dumps (front ++ rest) = dumps rest ∧ shown (front ++ rest) = shown rest := by
  induction front with
  | nil => exact ⟨rfl, rfl⟩
  | cons note front ih =>
    obtain ⟨report, rfl⟩ := h note List.mem_cons_self
    exact ih fun other hother => h other (List.mem_cons_of_mem _ hother)

end

/-- The notes of printed states. -/
def slotNotes (printed : List (SlotStatus × GamepadState)) : List Note :=
  printed.map fun state => .slot state.1 state.2

theorem dumps_of_slotNotes (printed : List (SlotStatus × GamepadState)) (rest : List Note) :
    dumps (slotNotes printed ++ rest) = dumps rest
      ∧ shown (slotNotes printed ++ rest) = printed.map Prod.fst ++ shown rest
      ∧ keystrokes (slotNotes printed ++ rest) = keystrokes rest := by
  induction printed with
  | nil => exact ⟨rfl, rfl, rfl⟩
  | cons state printed ih =>
    obtain ⟨hdumps, hshown, hkeystrokes⟩ := ih
    refine ⟨hdumps, congrArg (state.1 :: ·) hshown, ?_⟩
    exact hkeystrokes

/-! ## What a round relies on -/

/-- The exchange goes on with the settings, the slots with a controller are enabled, and the bank is in
    step with the keystrokes that were reported. -/
structure Watches (settings : Settings) (reports : List Keystroke) (session : Session) : Prop where
  reachable : session.Reachable
  closing : session.closing = false
  settings : session.settings = settings
  armed : session.Armed
  tallied : Tallied reports session.bank

section

variable {settings : Settings} {reports : List Keystroke} {session after : Session}
  (h : Watches settings reports session)

include h

theorem Watches.nextKeystroke {found : Except Error (Option Keystroke)}
    (hasked : session.nextKeystroke .any = (found, after)) :
    Watches settings ((Answer.keystroke found).report?.toList ++ reports) after := by
  have hsetup := Session.setup_nextKeystroke session .any
  have htallied := Session.tallied_nextKeystroke h.tallied .any
  have harmed := h.armed.nextKeystroke .any
  have hreachable : (session.nextKeystroke .any).2.Reachable :=
    @Session.Reachable.stepped _ _ (.request (.keystroke .any)) _ h.reachable rfl
  rw [hasked] at hsetup htallied harmed hreachable
  exact ⟨hreachable, (congrArg Session.Setup.closing hsetup).trans h.closing,
    (congrArg Session.Setup.settings hsetup).trans h.settings, harmed, htallied⟩

theorem Watches.sleep {ms : Nat} (hsleep : session.sleep ms = some after) :
    Watches settings reports after := by
  have hlater := (Session.later_sleep hsleep).1
  exact ⟨h.reachable.slept hsleep, hlater.closing.trans h.closing, hlater.settings.trans h.settings,
    h.armed.sleep hsleep, (Session.leads_sleep hsleep).tallied h.tallied⟩

theorem Watches.extendedState {index : UInt32} {found : Except Error GamepadState}
    (hasked : session.extendedState index = some (found, after)) :
    Watches settings reports after := by
  have hlater := Session.later_extendedState hasked
  have hstep : session.step (.request (.extendedState index)) = some (.state found, after) := by
    rw [Session.step, Session.answer, hasked]
    rfl
  have hreachable : after.Reachable := h.reachable.stepped hstep
  exact ⟨hreachable, hlater.closing.trans h.closing, hlater.settings.trans h.settings,
    h.armed.extendedState hasked, (Session.leads_askSlot hasked).tallied h.tallied⟩

/-- A drain prints nothing but keystrokes. -/
theorem Watches.drain (count : Nat) :
    (∀ note ∈ (drain count session).1, ∃ report, note = .keystroke report)
      ∧ Watches settings (keystrokes (drain count session).1 ++ reports) (drain count session).2 := by
  induction count generalizing session reports with
  | zero => exact ⟨fun _ hnote => absurd hnote List.not_mem_nil, h⟩
  | succ count ih =>
    rw [Monitor.drain]
    rcases hasked : session.nextKeystroke .any with ⟨_ | _ | report, after⟩
    · exact ⟨fun _ hnote => absurd hnote List.not_mem_nil, h.nextKeystroke hasked⟩
    · exact ⟨fun _ hnote => absurd hnote List.not_mem_nil, h.nextKeystroke hasked⟩
    · obtain ⟨hnotes, hdrained⟩ := ih (h.nextKeystroke hasked)
      refine ⟨List.forall_mem_cons.2 ⟨⟨report, rfl⟩, hnotes⟩, ?_⟩
      have hkeystrokes : keystrokes (.keystroke report :: (Monitor.drain count after).1)
          = keystrokes (Monitor.drain count after).1 ++ [report] := by
        simp [keystrokes, Note.keystroke?]
      dsimp only
      rw [hkeystrokes, List.append_assoc]
      exact hdrained

end

/-- A request fails only because the settings limit a wait. -/
def Ending.AllowedBy (settings : Settings) (ending : Ending) : Prop :=
  ∀ error, ending = .failed error →
    ∃ limit, settings.readyTimeout = some limit ∧ error = .notReady limit

theorem allowedBy_of_not_failed (settings : Settings) {ending : Ending}
    (h : ∀ error, ending ≠ .failed error) : ending.AllowedBy settings :=
  fun error hended => absurd hended (h error)

/-- What a dump of the listed slots prints and leaves behind. -/
structure Dumped (settings : Settings) (reports : List Keystroke) (slots : List SlotIndex)
    (outcome : List Note × Except Ending Session) : Prop where
  /-- The states of some of the slots, in their order. -/
  printed : ∃ printed, outcome.1 = slotNotes printed
    ∧ (printed.map fun state => state.1.index).Sublist slots
    ∧ ∀ state ∈ printed, state.1.connected = true ∧ state.1.enabled = true
  after : ∀ after, outcome.2 = .ok after → Watches settings reports after
  ended : ∀ ending, outcome.2 = .error ending → ending.AllowedBy settings

/-- A dump that ends before it prints anything. -/
theorem dumped_error {settings : Settings} {reports : List Keystroke} {slots : List SlotIndex}
    {ending : Ending} (h : ending.AllowedBy settings) :
    Dumped settings reports slots ([], .error ending) where
  printed := ⟨[], rfl, List.nil_sublist _, fun _ hstate => absurd hstate List.not_mem_nil⟩
  after _ hafter := by cases hafter
  ended _ hended := Except.error.inj hended ▸ h

theorem Watches.dumpSlots {settings : Settings} {reports : List Keystroke} {session : Session}
    (h : Watches settings reports session) (slots : List SlotIndex) :
    Dumped settings reports slots (dumpSlots slots session) := by
  induction slots generalizing session with
  | nil =>
    exact ⟨⟨[], rfl, List.nil_sublist _, fun _ hstate => absurd hstate List.not_mem_nil⟩,
      fun after hafter => Except.ok.inj hafter ▸ h, fun _ herror => by cases herror⟩
  | cons slot rest ih =>
    have hslot : (UInt32.ofNat slot.val).toNat = slot.val := by
      revert slot
      decide
    rw [Monitor.dumpSlots]
    rcases hasked : session.extendedState (UInt32.ofNat slot.val) with _ | ⟨found, after⟩
    -- The program ends while the query waits.
    · exact dumped_error (allowedBy_of_not_failed settings nofun)
    · have hafter := h.extendedState hasked
      have hrest := ih hafter
      obtain ⟨printed, hnotes, hslots, harmed⟩ := hrest.printed
      rcases h.reachable.extendedState_cases h.closing hslot hasked with
        ⟨rfl, hconnected⟩ | rfl | ⟨limit, hlimit, rfl⟩
      · refine ⟨⟨(after.bank.status slot, (after.bank.slot slot).state) :: printed,
          congrArg (Note.slot _ _ :: ·) hnotes, hslots.cons_cons slot, ?_⟩, hrest.after, hrest.ended⟩
        exact List.forall_mem_cons.2 ⟨⟨hconnected, hafter.armed slot hconnected⟩, harmed⟩
      · exact ⟨⟨printed, hnotes, hslots.cons slot, harmed⟩, hrest.after, hrest.ended⟩
      · rw [h.settings] at hlimit
        exact dumped_error fun error hended => ⟨limit, hlimit, (Ending.failed.inj hended).symm⟩

/-! ## Rounds -/

/-- What is printed behind a dump at the given time and behind the given keystrokes, and how it ends. -/
structure Orderly (settings : Settings) (reports : List Keystroke) (latest : Nat) (notes : List Note)
    (ending : Ending) : Prop where
  armed : ∀ status state, .slot status state ∈ notes →
    status.connected = true ∧ status.enabled = true
  /-- States are printed in dumps only. -/
  outside : shown notes = []
  ascending : ∀ dump ∈ dumps notes, (dump.2.map SlotStatus.index).Pairwise (· < ·)
  spaced : (latest :: (dumps notes).map Prod.fst).Pairwise fun time later => time + 1000 ≤ later
  alternates : ∀ slot code, ∃ n, actionsFor slot code (keystrokes notes ++ reports) = alternation n
  ended : ending.AllowedBy settings

section

variable {settings : Settings} {reports : List Keystroke} {latest : Nat} {notes : List Note}
  {ending : Ending}

/-- Nothing more is printed. -/
theorem Watches.orderly_nil {session : Session} (h : Watches settings reports session)
    (hended : ending.AllowedBy settings) : Orderly settings reports latest [] ending where
  armed _ _ hmem := absurd hmem List.not_mem_nil
  outside := rfl
  ascending _ hdump := absurd hdump List.not_mem_nil
  spaced := List.pairwise_singleton _ _
  alternates := h.tallied.alternates
  ended := hended

/-- Keystrokes in front. -/
theorem Orderly.drained {front : List Note}
    (hfront : ∀ note ∈ front, ∃ report, note = .keystroke report)
    (h : Orderly settings (keystrokes front ++ reports) latest notes ending) :
    Orderly settings reports latest (front ++ notes) ending := by
  obtain ⟨hdumps, hshown⟩ := dumps_of_keystrokes hfront notes
  refine ⟨fun status state hmem => ?_, hshown.trans h.outside, ?_, ?_, ?_, h.ended⟩
  · rcases List.mem_append.1 hmem with hmem | hmem
    · obtain ⟨report, heq⟩ := hfront _ hmem
      cases heq
    · exact h.armed status state hmem
  · rw [hdumps]
    exact h.ascending
  · rw [hdumps]
    exact h.spaced
  · intro slot code
    rw [keystrokes_append, List.append_assoc]
    exact h.alternates slot code

/-- A dump in front, a second after the latest or later. -/
theorem Orderly.dumped {time : Nat} {printed : List (SlotStatus × GamepadState)}
    (hdue : latest + dumpInterval ≤ time)
    (hslots : (printed.map fun state => state.1.index).Sublist SlotIndex.all)
    (harmed : ∀ state ∈ printed, state.1.connected = true ∧ state.1.enabled = true)
    (h : Orderly settings reports time notes ending) :
    Orderly settings reports latest (.dump time :: slotNotes printed ++ notes) ending := by
  obtain ⟨hdumps, hshown, hkeystrokes⟩ := dumps_of_slotNotes printed notes
  have hascending : SlotIndex.all.Pairwise (· < ·) := by decide
  have hall : dumps (.dump time :: slotNotes printed ++ notes)
      = (time, printed.map Prod.fst) :: dumps notes := by
    rw [List.cons_append, dumps, hdumps, hshown, h.outside, List.append_nil]
  refine ⟨fun status state hmem => ?_, rfl, ?_, ?_, fun slot code => ?_, h.ended⟩
  · rcases List.mem_cons.1 hmem with heq | hmem
    · cases heq
    · rcases List.mem_append.1 hmem with hmem | hmem
      · obtain ⟨found, hfound, heq⟩ := List.mem_map.1 hmem
        obtain ⟨rfl, rfl⟩ := Note.slot.inj heq
        exact harmed found hfound
      · exact h.armed status state hmem
  · rw [hall]
    refine List.forall_mem_cons.2 ⟨?_, h.ascending⟩
    rw [List.map_map]
    exact hascending.sublist hslots
  · rw [hall]
    refine List.pairwise_cons.2 ⟨fun later hlater => ?_, h.spaced⟩
    rcases List.mem_cons.1 hlater with rfl | hlater
    · exact hdue
    · have hbehind := (List.pairwise_cons.1 h.spaced).1 later hlater
      have hinterval : dumpInterval = 1000 := rfl
      omega
  · have hsame : keystrokes (.dump time :: slotNotes printed ++ notes) = keystrokes notes := hkeystrokes
    rw [hsame]
    exact h.alternates slot code

end

/-- What a round dumps, with what is printed behind it. -/
theorem Watches.dump {settings : Settings} {reports : List Keystroke} {session : Session}
    (h : Watches settings reports session) {latest : Nat} {more : List Note} {ending : Ending}
    (hrest : ∀ next after, (dump latest session).2 = .ok (next, after) →
      Watches settings reports after → Orderly settings reports next more ending)
    (hended : ∀ last, (dump latest session).2 = .error last → more = [] ∧ ending = last) :
    Orderly settings reports latest ((dump latest session).1 ++ more) ending := by
  unfold Monitor.dump at hrest hended ⊢
  split at hrest
  · next hdue =>
    rw [if_pos hdue] at hended ⊢
    have hdumped := h.dumpSlots SlotIndex.all
    generalize Monitor.dumpSlots SlotIndex.all session = outcome at hrest hended hdumped ⊢
    obtain ⟨notes, result⟩ := outcome
    obtain ⟨printed, rfl, hslots, harmed⟩ := hdumped.printed
    refine .dumped hdue hslots harmed ?_
    cases result with
    | error last =>
      obtain ⟨rfl, rfl⟩ := hended last rfl
      exact h.orderly_nil (hdumped.ended _ rfl)
    | ok after => exact hrest session.now after rfl (hdumped.after after rfl)
  · next hearly =>
    rw [if_neg hearly]
    exact hrest latest session rfl h

/-- One round, and the rounds that are left. -/
theorem rounds_succ (count latest : Nat) (session : Session) :
    rounds (count + 1) latest session
      = let drained := drain (drainLimit + 1) session
        let dumped := dump latest drained.2
        match dumped.2 with
        | .error ending => (drained.1 ++ dumped.1, ending)
        | .ok (next, after) =>
          match after.sleep roundSleep with
          | none => (drained.1 ++ dumped.1, .stopped)
          | some rested =>
            (drained.1 ++ dumped.1 ++ (rounds count next rested).1, (rounds count next rested).2) := by
  rfl

/-- However many rounds there are, what they print is in order. -/
theorem Watches.rounds {settings : Settings} {reports : List Keystroke} {session : Session}
    (h : Watches settings reports session) (count latest : Nat) :
    Orderly settings reports latest (rounds count latest session).1 (rounds count latest session).2 := by
  induction count generalizing session reports latest with
  | zero => exact h.orderly_nil (allowedBy_of_not_failed settings nofun)
  | succ count ih =>
    obtain ⟨hfront, hdrained⟩ := h.drain (drainLimit + 1)
    rw [rounds_succ]
    dsimp only
    generalize Monitor.drain (drainLimit + 1) session = drained at hfront hdrained ⊢
    have hdump := @Watches.dump settings _ _ hdrained latest
    rcases hresult : (Monitor.dump latest drained.2).2 with last | ⟨next, after⟩
    · have hround := @hdump [] last (fun _ _ hafter => by rw [hresult] at hafter; cases hafter)
        fun other hother => ⟨rfl, Except.error.inj (hresult.symm.trans hother)⟩
      rw [List.append_nil] at hround
      exact hround.drained hfront
    · -- Behind the dump the monitor sleeps, and goes on if the program does.
      have hround : ∀ more ending, (Watches settings (keystrokes drained.1 ++ reports) after →
          Orderly settings (keystrokes drained.1 ++ reports) next more ending) →
          Orderly settings reports latest (drained.1 ++ (Monitor.dump latest drained.2).1 ++ more)
            ending := by
        intro more ending hmore
        rw [List.append_assoc]
        refine (hdump (fun other rested hother => ?_) fun last hlast => ?_).drained hfront
        · obtain ⟨rfl, rfl⟩ := Prod.mk.inj (Except.ok.inj (hresult.symm.trans hother))
          exact hmore
        · rw [hresult] at hlast
          cases hlast
      dsimp only
      split
      · have hlast := hround [] .stopped fun hafter =>
          hafter.orderly_nil (allowedBy_of_not_failed settings nofun)
        rwa [List.append_nil] at hlast
      · next rested hsleep => exact hround _ _ fun hafter => ih (hafter.sleep hsleep) next

/-! ## The bounds of the loops -/

/-- A query of all slots never fails. -/
theorem fst_nextKeystroke_any (session : Session) : (session.nextKeystroke .any).1
    = .ok (Bank.firstKeystroke SlotIndex.all session.bank).1 := rfl

theorem bank_nextKeystroke_any (session : Session) : (session.nextKeystroke .any).2.bank
    = (Bank.firstKeystroke SlotIndex.all session.bank).2 :=
  (Session.nextKeystroke_of_selected rfl session).2

/-- A query of a drain finds nothing pending and ends the drain, or gives out the first keystroke that is
    pending and the drain goes on. -/
theorem drain_cases (session : Session) :
    (Bank.backlog SlotIndex.all session.bank = []
        ∧ Bank.backlog SlotIndex.all (session.nextKeystroke .any).2.bank = []
        ∧ ∀ count, drain (count + 1) session = ([], (session.nextKeystroke .any).2))
      ∨ ∃ report rest, Bank.backlog SlotIndex.all session.bank = report :: rest
        ∧ Bank.backlog SlotIndex.all (session.nextKeystroke .any).2.bank = rest
        ∧ ∀ count, drain (count + 1) session
          = (.keystroke report :: (drain count (session.nextKeystroke .any).2).1,
            (drain count (session.nextKeystroke .any).2).2) := by
  have hnodup := SlotIndex.nodup_all
  have hfound := fst_nextKeystroke_any session
  have hrest := Bank.backlog_firstKeystroke hnodup session.bank
  rw [← bank_nextKeystroke_any] at hrest
  rw [Bank.fst_firstKeystroke hnodup] at hfound
  rcases hasked : session.nextKeystroke .any with ⟨answer, after⟩
  rw [hasked] at hfound hrest
  obtain rfl : answer = _ := hfound
  cases hbacklog : Bank.backlog SlotIndex.all session.bank with
  | nil =>
    rw [hbacklog] at hasked hrest
    exact Or.inl ⟨rfl, hrest, fun count => by rw [drain, hasked]; rfl⟩
  | cons report rest =>
    rw [hbacklog] at hasked hrest
    exact Or.inr ⟨report, rest, rfl, hrest, fun count => by rw [drain, hasked]; rfl⟩

/-- With one query more than there are keystrokes pending, a drain leaves none, and would not ask more
    often if it could. -/
theorem drain_of_lt {count : Nat} {session : Session}
    (h : Bank.pendingCount SlotIndex.all session.bank < count) :
    Bank.pendingCount SlotIndex.all (drain count session).2.bank = 0
      ∧ ∀ more, drain (count + more) session = drain count session := by
  simp only [← Bank.length_backlog, List.length_eq_zero_iff] at h ⊢
  induction count generalizing session with
  | zero => exact absurd h (Nat.not_lt_zero _)
  | succ count ih =>
    simp only [Nat.add_right_comm count 1]
    rcases drain_cases session with ⟨-, hempty, hdrain⟩ | ⟨report, rest, hbacklog, hrest, hdrain⟩
    · rw [hdrain]
      exact ⟨hempty, fun more => hdrain (count + more)⟩
    · rw [hbacklog, List.length_cons] at h
      obtain ⟨hdrained, hmore⟩ := ih (hrest.symm ▸ Nat.lt_of_succ_lt_succ h)
      rw [hdrain]
      exact ⟨hdrained, fun more => by rw [hdrain, hmore]⟩

/-- The limit of a drain is enough for every session. -/
theorem drain_complete (session : Session) :
    Bank.pendingCount SlotIndex.all (drain (drainLimit + 1) session).2.bank = 0
      ∧ ∀ more, drain (drainLimit + 1 + more) session = drain (drainLimit + 1) session :=
  drain_of_lt (Nat.lt_succ_of_le (Bank.pendingCount_le _ session.bank))

theorem later_drain (count : Nat) (session : Session) : session.Later (drain count session).2 := by
  induction count generalizing session with
  | zero => exact Session.later_refl session
  | succ count ih =>
    have hsetup := Session.setup_nextKeystroke session .any
    rw [drain]
    rcases hasked : session.nextKeystroke .any with ⟨_ | _ | report, after⟩
    all_goals
      rw [hasked] at hsetup
      have hlater : session.Later after := Session.later_of_setup hsetup
    · exact hlater
    · exact hlater
    · exact hlater.trans (ih after)

/-- A dump of slots ends the monitor by a request that waits or fails, or goes through. -/
theorem dumpSlots_cases (slots : List SlotIndex) (session : Session) :
    (∃ ending, ending ≠ .unfinished ∧ (dumpSlots slots session).2 = .error ending)
      ∨ ∃ after, session.Later after ∧ (dumpSlots slots session).2 = .ok after := by
  induction slots generalizing session with
  | nil => exact Or.inr ⟨session, Session.later_refl session, rfl⟩
  | cons slot rest ih =>
    rw [dumpSlots]
    rcases hasked : session.extendedState (UInt32.ofNat slot.val) with _ | ⟨found, asked⟩
    · exact Or.inl ⟨.waiting, nofun, rfl⟩
    · have hlater := Session.later_extendedState hasked
      have hrest : (∃ ending, ending ≠ .unfinished ∧ (dumpSlots rest asked).2 = .error ending)
          ∨ ∃ after, session.Later after ∧ (dumpSlots rest asked).2 = .ok after :=
        (ih asked).imp id fun ⟨after, hafter, hdumped⟩ => ⟨after, hlater.trans hafter, hdumped⟩
      rcases found with error | state
      · cases error
        case notConnected => exact hrest
        all_goals exact Or.inl ⟨.failed _, nofun, rfl⟩
      · exact hrest

theorem dump_cases (latest : Nat) (session : Session) :
    (∃ ending, ending ≠ .unfinished ∧ (dump latest session).2 = .error ending)
      ∨ ∃ next after, session.Later after ∧ (dump latest session).2 = .ok (next, after) := by
  unfold dump
  split
  · dsimp only
    rcases dumpSlots_cases SlotIndex.all session with ⟨ending, hending, hdumped⟩ |
      ⟨after, hlater, hdumped⟩
    · rw [hdumped]
      exact Or.inl ⟨ending, hending, rfl⟩
    · rw [hdumped]
      exact Or.inr ⟨session.now, after, hlater, rfl⟩
  · exact Or.inr ⟨latest, session, Session.later_refl session, rfl⟩

/-- A round ends the monitor, however many are left, or the rest of the rounds follow on it: ten
    milliseconds later, and before the process ends. -/
theorem rounds_cases (latest : Nat) (session : Session) :
    (∃ notes ending, ending ≠ .unfinished
        ∧ ∀ count, rounds (count + 1) latest session = (notes, ending))
      ∨ ∃ notes next after, session.Later after ∧ session.now + roundSleep ≤ after.now
        ∧ (∀ stop ∈ session.network.stopAt, after.now < stop)
        ∧ ∀ count, rounds (count + 1) latest session
          = (notes ++ (rounds count next after).1, (rounds count next after).2) := by
  have hround := fun count => rounds_succ count latest session
  have hdrained := later_drain (drainLimit + 1) session
  generalize drain (drainLimit + 1) session = drained at hround hdrained
  rcases dump_cases latest drained.2 with ⟨ending, hending, hdump⟩ | ⟨next, dumped, hdumped, hdump⟩
  · refine Or.inl ⟨drained.1 ++ (dump latest drained.2).1, ending, hending, fun count => ?_⟩
    simp only [hround, hdump]
  · have hlater := hdrained.trans hdumped
    cases hsleep : dumped.sleep roundSleep with
    | none =>
      refine Or.inl ⟨drained.1 ++ (dump latest drained.2).1, .stopped, nofun, fun count => ?_⟩
      simp only [hround, hdump, hsleep]
    | some rested =>
      obtain ⟨hrested, hnow, hgoes⟩ := Session.later_sleep hsleep
      rw [hlater.stopAt] at hgoes
      have htime : session.now + roundSleep ≤ rested.now := by
        rw [hnow]
        exact Nat.add_le_add_right hlater.now _
      refine Or.inr ⟨drained.1 ++ (dump latest drained.2).1, next, rested, hlater.trans hrested,
        htime, hgoes, fun count => ?_⟩
      simp only [hround, hdump, hsleep]

/-- Rounds that reach up to the end of the process are enough. -/
theorem rounds_ne_unfinished {count stopAt : Nat} {session : Session}
    (hstop : session.network.stopAt = some stopAt)
    (h : stopAt ≤ session.now + roundSleep * (count + 1)) (latest : Nat) :
    (rounds (count + 1) latest session).2 ≠ .unfinished := by
  induction count generalizing session latest with
  | zero =>
    rcases rounds_cases latest session with ⟨notes, ending, hending, hround⟩ |
      ⟨notes, next, after, -, htime, hgoes, -⟩
    · rw [hround]
      exact hending
    · have hbefore := hgoes stopAt (Option.mem_def.2 hstop)
      omega
  | succ count ih =>
    rcases rounds_cases latest session with ⟨notes, ending, hending, hround⟩ |
      ⟨notes, next, after, hlater, htime, -, hround⟩
    · rw [hround]
      exact hending
    · rw [hround]
      refine ih (hlater.stopAt.trans hstop) ?_ next
      rw [Nat.mul_succ] at h
      omega

/-- Rounds that are enough are all there are. -/
theorem rounds_add {count latest : Nat} {session : Session}
    (h : (rounds count latest session).2 ≠ .unfinished) (more : Nat) :
    rounds (count + more) latest session = rounds count latest session := by
  induction count generalizing session latest with
  | zero => exact absurd rfl h
  | succ count ih =>
    rw [Nat.add_right_comm]
    rcases rounds_cases latest session with ⟨notes, ending, -, hround⟩ |
      ⟨notes, next, after, -, -, -, hround⟩
    · rw [hround, hround]
    · rw [hround] at h
      rw [hround, hround, ih h]

/-! ## Without a session -/

/-- Without an exchange nothing is printed, and the first dump ends the monitor. -/
theorem rounds_of_barren {reason : String} {session : Session} (h : session.Barren reason true)
    (count latest : Nat) :
    (∃ ending, (∀ error, ending ≠ .failed error) ∧ rounds count latest session = ([], ending))
      ∨ ∃ time, rounds count latest session = ([.dump time], .failed (.unavailable reason)) := by
  induction count generalizing session with
  | zero => exact Or.inl ⟨.unfinished, nofun, rfl⟩
  | succ count ih =>
    have hdrain : drain (drainLimit + 1) session = ([], session) := by
      rw [drain, h.nextKeystroke]
      rfl
    have hasked : session.extendedState (UInt32.ofNat (0 : SlotIndex).val)
        = some (.error (.unavailable reason), session) := h.askSlot _ fun slot => .ok slot.state
    have hdumped : dumpSlots SlotIndex.all session = ([], .error (.failed (.unavailable reason))) := by
      have hall : SlotIndex.all = 0 :: SlotIndex.all.tail := by decide
      rw [hall, dumpSlots, hasked]
    rw [rounds_succ, hdrain]
    dsimp only
    by_cases hdue : latest + dumpInterval ≤ session.now
    · have hdump : dump latest session = ([.dump session.now], .error (.failed (.unavailable reason))) := by
        rw [dump, if_pos hdue, hdumped]
        rfl
      rw [hdump]
      exact Or.inr ⟨session.now, rfl⟩
    · have hdump : dump latest session = ([], .ok (latest, session)) := if_neg hdue
      rw [hdump]
      dsimp only
      split
      · exact Or.inl ⟨.stopped, nofun, rfl⟩
      · next rested hsleep =>
        have hrested : rested.Barren reason true := by
          rw [Session.eq_advance_of_sleep hsleep, Session.advance, h.advanceTo]
          exact ⟨h.phase, h.bank⟩
        rcases ih hrested with ⟨ending, hending, hnothing⟩ | ⟨time, hdumps⟩
        · rw [hnothing]
          exact Or.inl ⟨ending, hending, rfl⟩
        · rw [hdumps]
          exact Or.inr ⟨time, rfl⟩

/-! ## The program -/

/-- The session that the monitor shares, with every slot enabled. -/
def openedSession (environment : Environment) (network : Network) (stopAt : Nat) : Session :=
  (Shared.launch environment
    ({ network with stopAt := some stopAt }.note (.requested (.enable true)))).enable true

theorem run_eq_rounds (environment : Environment) (network : Network) (stopAt : Nat) :
    run environment network stopAt = rounds (stopAt / roundSleep + 1)
      (openedSession environment network stopAt).now (openedSession environment network stopAt) := rfl

/-- The process ends before the monitor's rounds do. -/
theorem run_ne_unfinished (environment : Environment) (network : Network) (stopAt : Nat) :
    (run environment network stopAt).2 ≠ .unfinished := by
  have hignored : ∀ before : Network,
      (Shared.noteIgnored environment before).stopAt = before.stopAt := by
    intro before
    unfold Shared.noteIgnored
    split <;> rfl
  have hstop : (openedSession environment network stopAt).network.stopAt = some stopAt :=
    (Session.stopAt_openWith ..).trans (hignored _)
  have hcount : stopAt ≤ roundSleep * (stopAt / roundSleep + 1) := by
    rw [show roundSleep = 10 from rfl]
    omega
  rw [run_eq_rounds]
  exact rounds_ne_unfinished hstop (Nat.le_add_left_of_le hcount) _

/-- With more rounds the run would be the same. -/
theorem rounds_complete (environment : Environment) (network : Network) (stopAt more : Nat) :
    rounds (stopAt / roundSleep + 1 + more) (openedSession environment network stopAt).now
        (openedSession environment network stopAt) = run environment network stopAt :=
  rounds_add (run_ne_unfinished environment network stopAt) more

/-- The session is started with the environment's settings, and what fails is as in the network. -/
theorem openedSession_cases (environment : Environment) (network : Network) (stopAt : Nat) :
    Watches (Shared.settingsOrDefault environment) [] (openedSession environment network stopAt)
      ∨ ((network.obstacles.bind ≠ none ∨ network.obstacles.spawn ≠ none)
        ∧ ∃ reason, (openedSession environment network stopAt).Barren reason true) := by
  unfold openedSession Shared.launch Session.start
  generalize hsettings : Shared.settingsOrDefault environment = settings
  dsimp only
  generalize hnetwork : (Shared.noteIgnored environment
    ({ network with stopAt := some stopAt }.note (.requested (.enable true)))).note
      (.starting settings.peer) = opening
  have hobstacles : opening.obstacles = network.obstacles := by
    rw [← hnetwork]
    unfold Shared.noteIgnored
    split <;> rfl
  cases hstart : Session.startError? settings opening.obstacles with
  | some error =>
    refine Or.inr ⟨?_, error.message, (Session.openWith_of_startError settings.peer hstart).1.enable true⟩
    rw [← hobstacles]
    unfold Session.startError? at hstart
    split at hstart
    · next hbind => exact Or.inl (by simp [hbind])
    · next hspawn => exact Or.inr (by simp [hspawn])
    · cases hstart
  | none =>
    have hfree : opening.obstacles.bind = none ∧ opening.obstacles.spawn = none := by
      unfold Session.startError? at hstart
      split at hstart
      · cases hstart
      · cases hstart
      · next hbind hspawn => exact ⟨hbind, hspawn⟩
    have hopened : (Session.openWith settings settings.peer opening).Reachable :=
      .opened hfree.1 hfree.2
    have htallied : Tallied [] (Session.openWith settings settings.peer opening).bank :=
      Session.tallied_openWith hfree.1 hfree.2
    obtain ⟨hclosing, hgiven⟩ := Session.settings_openWith settings.peer hfree.1 hfree.2
    exact Or.inl ⟨@Session.Reachable.stepped _ _ (.request (.enable true)) _ hopened rfl, hclosing,
      hgiven, Session.armed_enable _, Session.Leads.tallied (.single (.enable true)) htallied⟩

/-- In every environment, whatever the network does and whenever the process ends: the bounds on the
    monitor's loops cut nothing off, since with more rounds the run is the same and every drain leaves
    nothing pending. The monitor prints states of connected and enabled slots only, in dumps with ascending
    slots that begin a second or more apart; the keystrokes of a slot alternate per key and begin with
    down; and the monitor ends by itself only if there is no session, at the first dump and with nothing
    printed, or if a wait for readiness takes longer than the settings allow. -/
theorem monitor_run (environment : Environment) (network : Network) (stopAt : Nat) :
    (run environment network stopAt).2 ≠ .unfinished
      ∧ (∀ more, rounds (stopAt / roundSleep + 1 + more) (openedSession environment network stopAt).now
        (openedSession environment network stopAt) = run environment network stopAt)
      ∧ (∀ session, Bank.pendingCount SlotIndex.all (drain (drainLimit + 1) session).2.bank = 0
        ∧ ∀ more, drain (drainLimit + 1 + more) session = drain (drainLimit + 1) session)
      ∧ (∀ status state, .slot status state ∈ (run environment network stopAt).1 →
        status.connected = true ∧ status.enabled = true)
      ∧ shown (run environment network stopAt).1 = []
      ∧ (∀ dump ∈ dumps (run environment network stopAt).1,
        (dump.2.map SlotStatus.index).Pairwise (· < ·))
      ∧ ((dumps (run environment network stopAt).1).map Prod.fst).Pairwise
        (fun time later => time + 1000 ≤ later)
      ∧ (∀ slot code, ∃ n,
        actionsFor slot code (keystrokes (run environment network stopAt).1) = alternation n)
      ∧ ∀ error, (run environment network stopAt).2 = .failed error →
        ((∃ reason, error = .unavailable reason)
            ∧ (network.obstacles.bind ≠ none ∨ network.obstacles.spawn ≠ none)
            ∧ (∃ time, (run environment network stopAt).1 = [.dump time])
            ∧ (run environment network stopAt).1.filterMap Note.toJson? = [])
          ∨ ∃ limit, (Shared.settingsOrDefault environment).readyTimeout = some limit
            ∧ error = .notReady limit := by
  refine ⟨run_ne_unfinished environment network stopAt, rounds_complete environment network stopAt,
    drain_complete, ?_⟩
  rw [run_eq_rounds]
  rcases openedSession_cases environment network stopAt with hwatches | ⟨hobstacles, reason, hbarren⟩
  · have horderly := hwatches.rounds (stopAt / roundSleep + 1)
      (openedSession environment network stopAt).now
    refine ⟨horderly.armed, horderly.outside, horderly.ascending,
      (List.pairwise_cons.1 horderly.spaced).2, fun slot code => ?_, fun error hended =>
        Or.inr (horderly.ended error hended)⟩
    have halternates := horderly.alternates slot code
    rwa [List.append_nil] at halternates
  · have hnone : ∀ slot code, ∃ n, actionsFor slot code [] = alternation n := fun _ _ => ⟨0, rfl⟩
    rcases rounds_of_barren hbarren (stopAt / roundSleep + 1)
      (openedSession environment network stopAt).now with ⟨ending, hending, hnothing⟩ | ⟨time, hdumps⟩
    · rw [hnothing]
      exact ⟨fun _ _ hmem => absurd hmem List.not_mem_nil, rfl,
        fun _ hdump => absurd hdump List.not_mem_nil, List.Pairwise.nil, hnone,
        fun error hended => absurd hended (hending error)⟩
    · rw [hdumps]
      refine ⟨fun _ _ hmem => by simp at hmem, rfl, ?_, List.pairwise_singleton _ _, hnone, ?_⟩
      · intro dump hdump
        obtain rfl := List.mem_singleton.1 hdump
        exact List.Pairwise.nil
      · intro error hended
        obtain rfl := Ending.failed.inj hended
        exact Or.inl ⟨⟨reason, rfl⟩, hobstacles, ⟨time, rfl⟩, rfl⟩

end PadLink.Monitor
