import PadLink.Proofs.Bank.History
import PadLink.Proofs.Keystroke.Alternation
import PadLink.Proofs.Keystroke.Edges

set_option autoImplicit false

/-! # Reported keys of a bank

The snapshot of a slot is raw: bits, trigger values and axes that were taken over at different times,
with a stick parked in the middle now and then. What it stands for is a set of keys, and that set is
what callers have been told. `Tallied` says so for a list of reports and a bank: per key the reports
alternate, and the keys reported down and not yet up are those that the snapshot holds.

One detection keeps this (`Tallied.nextKeystroke`), because it reports only what is possible for the
snapshot and then changes the key of the report alone. Nothing else that is done to a bank touches a
snapshot, not even a reconnection, so it holds after every run (`tallied_after`). -/

namespace PadLink.Bank

open Keystroke (actionsFor alternation isHeld)

/-- The reports are in step with the snapshots of the bank. -/
structure Tallied (reports : List Keystroke) (bank : Bank) : Prop where
  alternates : ∀ slot code, ∃ n, actionsFor slot code reports = alternation n
  held : ∀ slot code, isHeld slot code reports = true
    ↔ ∃ key : Key, key.code = code ∧ (bank.slot slot).reported.holds key = true

theorem tallied_default : Tallied [] {} := by
  refine ⟨fun _ _ => ⟨0, rfl⟩, ?_⟩
  intro slot code
  simp [isHeld, actionsFor, Gamepad.holds_default]

/-- Only the keys that the snapshots hold matter. -/
theorem Tallied.of_holds {reports : List Keystroke} {bank other : Bank} (h : Tallied reports bank)
    (hholds : ∀ slot key,
      (other.slot slot).reported.holds key = (bank.slot slot).reported.holds key) :
    Tallied reports other := by
  refine ⟨h.alternates, ?_⟩
  intro slot code
  simp only [h.held, hholds]

/-- A slot that has nothing to report holds in its snapshot the keys of its gamepad. -/
theorem holds_of_nextKeystroke_none {bank : Bank} {slot : SlotIndex}
    (h : (bank.nextKeystroke slot).1 = none) (key : Key) :
    (bank.slot slot).reported.holds key = (bank.slot slot).state.gamepad.holds key := by
  have hdetect : (bank.slot slot).state.gamepad.detect (bank.slot slot).reported
      = (none, ((bank.slot slot).state.gamepad.detect (bank.slot slot).reported).2) :=
    Prod.ext (Option.map_eq_none_iff.1 h) rfl
  exact (Gamepad.holds_of_detect_none hdetect key).2

/-- A report that is possible for a snapshot, with the snapshot that it leads to. -/
theorem Tallied.report {reports : List Keystroke} {bank other : Bank} {index : SlotIndex}
    {t : Transition} (h : Tallied reports bank)
    (hreported : (bank.slot index).reported.Reported t (other.slot index).reported)
    (hothers : ∀ slot, slot ≠ index → other.slot slot = bank.slot slot) :
    Tallied (t.report index.userIndex :: reports) other := by
  -- The snapshot holds the key just when the transition lets go of it, and so do the reports.
  have hheld : isHeld index t.key.code reports = true ↔ t.action = .up := by
    rw [h.held]
    constructor
    · rintro ⟨key, hcode, hholds⟩
      rw [Key.code_inj hcode, hreported.possible] at hholds
      simpa using hholds
    · intro hup
      exact ⟨t.key, rfl, by rw [hreported.possible, hup]; rfl⟩
  refine ⟨?_, ?_⟩
  · intro slot code
    by_cases hself : slot = index ∧ code = t.key.code
    · obtain ⟨rfl, rfl⟩ := hself
      obtain ⟨n, hn⟩ := h.alternates slot t.key.code
      rw [Keystroke.actionsFor_report_self, hn]
      rw [isHeld, beq_iff_eq, hn] at hheld
      exact ⟨n + 1, Keystroke.cons_alternation hheld⟩
    · rw [Keystroke.actionsFor_report_other hself]
      exact h.alternates slot code
  · intro slot code
    by_cases hself : slot = index ∧ code = t.key.code
    · obtain ⟨rfl, rfl⟩ := hself
      rw [isHeld, Keystroke.actionsFor_report_self, List.head?_cons]
      constructor
      · intro hdown
        refine ⟨t.key, rfl, ?_⟩
        rw [hreported.holds, if_pos rfl]
        simpa using hdown
      · rintro ⟨key, hcode, hholds⟩
        rw [Key.code_inj hcode, hreported.holds, if_pos rfl] at hholds
        simpa using hholds
    · rw [isHeld, Keystroke.actionsFor_report_other hself, ← isHeld, h.held]
      -- Behind a report for another key or slot the snapshot holds this code as before.
      have hsame : ∀ key : Key, key.code = code →
          (other.slot slot).reported.holds key = (bank.slot slot).reported.holds key := by
        intro key hcode
        by_cases hslot : slot = index
        · subst hslot
          have hkey : key ≠ t.key := by
            rintro rfl
            exact hself ⟨rfl, hcode.symm⟩
          rw [hreported.holds, if_neg hkey]
        · rw [hothers slot hslot]
      constructor
      · rintro ⟨key, hcode, hholds⟩
        exact ⟨key, hcode, (hsame key hcode).trans hholds⟩
      · rintro ⟨key, hcode, hholds⟩
        exact ⟨key, hcode, (hsame key hcode).symm.trans hholds⟩

theorem Tallied.nextKeystroke {reports : List Keystroke} {bank : Bank} (h : Tallied reports bank)
    (index : SlotIndex) :
    Tallied ((bank.nextKeystroke index).1.toList ++ reports) (bank.nextKeystroke index).2 := by
  have hothers : ∀ slot, slot ≠ index → (bank.nextKeystroke index).2.slot slot = bank.slot slot := by
    intro slot hne
    rw [slot_nextKeystroke, if_neg hne]
  have hindex : ((bank.nextKeystroke index).2.slot index).reported
      = ((bank.slot index).state.gamepad.detect (bank.slot index).reported).2 := by
    rw [slot_nextKeystroke, if_pos rfl]
  have hreport : (bank.nextKeystroke index).1
      = ((bank.slot index).state.gamepad.detect (bank.slot index).reported).1.map
          fun t => t.report index.userIndex := rfl
  rcases hdetect : (bank.slot index).state.gamepad.detect (bank.slot index).reported with
    ⟨found, snapshot⟩
  rw [hdetect] at hindex hreport
  rw [hreport]
  cases found with
  | some t =>
    have hreported : (bank.slot index).reported.Reported t
        ((bank.nextKeystroke index).2.slot index).reported := by
      rw [hindex]
      exact Gamepad.reported_of_detect hdetect
    exact h.report hreported hothers
  | none =>
    refine h.of_holds ?_
    intro slot key
    by_cases hslot : slot = index
    · subst hslot
      rw [hindex]
      exact (Gamepad.holds_of_detect_none hdetect key).1
    · rw [hothers slot hslot]

theorem Tallied.firstKeystroke {reports : List Keystroke} {bank : Bank} (h : Tallied reports bank)
    (slots : List SlotIndex) :
    Tallied ((Bank.firstKeystroke slots bank).1.toList ++ reports)
      (Bank.firstKeystroke slots bank).2 :=
  firstKeystroke_induction (fun index _ _ _ hother => hother.nextKeystroke index) reports h

theorem tallied_after (actions : List Action) : Tallied (reports actions) (after actions) := by
  induction actions with
  | nil => exact tallied_default
  | cons action earlier ih =>
    rw [reports, after]
    -- Only a query touches a snapshot, and only a query reports.
    by_cases hquery : ∃ slots, action = .keystroke slots
    · obtain ⟨slots, rfl⟩ := hquery
      exact ih.firstKeystroke slots
    · have hsilent : ((after earlier).act action).1 = none := by
        cases action with
        | keystroke slots => exact absurd ⟨slots, rfl⟩ hquery
        | _ => rfl
      rw [hsilent]
      refine ih.of_holds ?_
      intro slot key
      rw [(effect_act (after earlier) slot action).reported fun slots heq => hquery ⟨slots, heq⟩]

/-- In every run, whoever asks and whatever happens between two questions, the reports for a slot
    alternate per key and begin with down, and the keys reported down and not yet up are exactly
    those that the slot's snapshot holds. So a stick never has two directions held, and nothing is
    reported up that is not held. -/
theorem keystrokes_alternate (actions : List Action) (slot : SlotIndex) :
    (∀ code, ∃ n, actionsFor slot code (reports actions) = alternation n)
      ∧ (∀ code, isHeld slot code (reports actions) = true
          ↔ ∃ key ∈ ((after actions).slot slot).reported.heldKeys, key.code = code)
      ∧ (∀ side d e, isHeld slot (Key.stick side d).code (reports actions) = true →
          isHeld slot (Key.stick side e).code (reports actions) = true → d = e)
      ∧ (∀ later report earlier, reports actions = later ++ report :: earlier →
          report.userIndex = slot.userIndex → report.action = .up →
          isHeld slot report.virtualKey earlier = true) := by
  have h := tallied_after actions
  refine ⟨h.alternates slot, ?_, ?_, ?_⟩
  · intro code
    simp only [h.held, Gamepad.mem_heldKeys, and_comm]
  · intro side d e hd he
    obtain ⟨key, hkey, hholds⟩ := (h.held _ _).1 hd
    obtain ⟨other, hother, hholds'⟩ := (h.held _ _).1 he
    rw [Key.code_inj hkey] at hholds
    rw [Key.code_inj hother] at hholds'
    exact Gamepad.direction_unique hholds hholds'
  · intro later report earlier hsplit hslot hup
    obtain ⟨n, hn⟩ := h.alternates slot report.virtualKey
    rw [hsplit] at hn
    exact Keystroke.isHeld_of_up hn hslot hup

end PadLink.Bank
