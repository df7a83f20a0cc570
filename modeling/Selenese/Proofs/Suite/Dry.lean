import Selenese.Proofs.Report.Tally
import Selenese.Suite

/-!
# Selenese.Proofs.Suite.Dry

What a dry run tells a report.

* `dryScript_eq`: every line before the first unknown command counts as a passed assertion, and the
  unknown command as an invalid mark.
* `dryTests_eq`: a dry run of tests tells them one after the other, and counts the invalid ones.
-/

namespace Selenese.Suite

open Report (Event writeAll told toldAll)

def allKnown (lines : List Line) : Bool := lines.all fun l => Command.isKnown l.command

/-- The lines before the first unknown command. -/
def knownLines (lines : List Line) : List Line := lines.takeWhile fun l => Command.isKnown l.command

/-- What the report is told of lines that are only looked at. -/
def lookedAt (lines : List Line) : List Event :=
  List.replicate (knownLines lines).length .passed ++ if allKnown lines then [] else [.invalid]

def dryEvents (s : Script) : List Event := .begun :: lookedAt s.lines

theorem dryLines_eq (d : TestId) (lines : List Line) (r : Report) :
    dryLines d lines r = (allKnown lines, writeAll (told d r.clock (lookedAt lines)) r) := by
  induction lines generalizing r with
  | nil => rfl
  | cons l rest ih =>
    rw [dryLines]
    cases hl : Command.isKnown l.command with
    | false =>
      simp [lookedAt, allKnown, knownLines, hl, told, writeAll, Report.Entry.write, Event.write]
    | true =>
      have hlooked : lookedAt (l :: rest) = .passed :: lookedAt rest := by
        simp [lookedAt, allKnown, knownLines, hl, List.replicate_succ]
      rw [if_pos rfl, ih, hlooked, allKnown, allKnown, List.all_cons, hl, Bool.true_and]
      rfl

theorem dryScript_eq (d : TestId) (s : Script) (r : Report) :
    dryScript d s r = (allKnown s.lines, writeAll (told d r.clock (dryEvents s)) r) := by
  rw [dryScript, dryLines_eq]
  rfl

theorem dryTests_eq (tests : List (TestId × Script)) (s : Summary) (r : Report) :
    dryTests tests s r =
      ({ s with
          runs := s.runs + tests.length
          invalid := s.invalid + tests.countP fun p => !allKnown p.2.lines },
        writeAll (toldAll r.clock (tests.map fun p => (p.1, dryEvents p.2))) r) := by
  induction tests generalizing s r with
  | nil => rfl
  | cons test rest ih =>
    obtain ⟨d, script⟩ := test
    rw [dryTests, dryScript_eq]
    dsimp only
    rw [ih, Report.clock_writeAll_told, List.map_cons, Report.toldAll_cons, Report.writeAll_append]
    refine congrArg (Prod.mk · _) ?_
    rw [List.length_cons, List.countP_cons, Summary.mk.injEq]
    dsimp only
    refine ⟨rfl, rfl, by omega, rfl, ?_⟩
    cases allKnown script.lines with
    | false =>
      simp only [Bool.not_false, if_true, Bool.false_eq_true, if_false]
      omega
    | true => simp

theorem dryRun_loaded {σ : Type} {read : String → StateM σ (Except FileError String)}
    {settings : Settings} {path : String} {l : Loaded} {t t₀ : σ}
    (hload : load read settings path t = (.ok l, t₀)) (report : Report) :
    dryRun read settings path report t =
      (.ok (dryTests (tests settings (nameOf path) l.entries) l.summary report), t₀) := by
  simp only [dryRun, bind, StateT.bind, hload]
  rfl

end Selenese.Suite
