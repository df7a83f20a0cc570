import Selenese.Proofs.Replay.Agreement
import Selenese.Suite

/-!
# Selenese.Proofs.Suite.Course

What a test of a suite does, whatever has been reported before it.

* `Course.of`: how many assertions hold in a run, the fault that ends it, and the verification
  errors. It is read off the script, the options and the session that was opened, or the error
  instead.
* `Record.after_course`: one more test writes the events of its course, counts its fault and adds a
  sitting with that fault.
* `courses`: the courses of tests that are run one after the other. `liveTests_courses`: a run of
  tests writes the events of its courses, and nothing else.
-/

namespace Selenese.Suite

open Report (Event writeAll told toldAll)
open Replay (runEvents)

/-! ## One test -/

def Sitting.fault? (s : Sitting) : Option Fault :=
  match s.result with
  | .ok () => none
  | .error f => some f

/-- What the report is told of a test. -/
def testEvents (held : Nat) (fault : Option Fault) (messages : List String) : List Event :=
  .begun :: (runEvents held fault ++ messages.map (.property verificationProperty) ++
    if fault.any Fault.isUnknownCommand then [.invalid] else [])

theorem addVerificationErrors_eq (d : TestId) (messages : List String) (r : Report) :
    addVerificationErrors d messages r =
      writeAll (told d r.clock (messages.map (.property verificationProperty))) r := by
  induction messages generalizing r with
  | nil => rfl
  | cons m rest ih => exact ih (r.addProperty d verificationProperty m)

/-- The run of a script tells the passed assertions and the fault, and after the run the
verification errors. -/
theorem liveScript_tells (options : Options) (d : TestId) (s : Script) (session : Session)
    (r : Report) :
    let x := Replay.ready d options session (some r)
    let out := Replay.run s x
    (liveScript options d s session r).2.2 =
      writeAll (told d r.clock (runEvents (Replay.held s.lines (x.begin s)) (errorOf? out) ++
        (stateAfter out).verificationErrors.map (.property verificationProperty))) r := by
  intro x out
  have hr : x.report = some r := rfl
  have hreport := (Replay.run_tells s hr).1
  have hnoted : (liveScript options d s session r).2.2 =
      addVerificationErrors d (stateAfter out).verificationErrors
        ((stateAfter out).report.getD r) := by
    simp only [liveScript, out, x]
    cases Replay.run s (.ready d options session (some r)) <;> rfl
  rw [Report.writeAll_told_append, ← addVerificationErrors_eq, hnoted, hreport]
  rfl

/-- What happens in a test. -/
structure Course where
  /-- The assertions that hold. -/
  held : Nat
  /-- What ends the test, if it does not end well. -/
  fault : Option Fault
  messages : List String

namespace Course

/-- The course of a test, for the session that was opened for it or the error instead. What a run
does is the same whatever report it tells, so it is taken from a run that tells none. -/
def of (options : Options) (d : TestId) (s : Script) : Except SessionError Session → Course
  | .error e => ⟨0, some (.session e), []⟩
  | .ok session =>
    let x := Replay.ready d options session none
    let out := Replay.run s x
    ⟨Replay.held s.lines (x.begin s), errorOf? out, (stateAfter out).verificationErrors⟩

/-- What the report is told of a test. -/
def events (c : Course) : List Event := testEvents c.held c.fault c.messages

theorem endsRuns_of (options : Options) (d : TestId) (s : Script)
    (opened : Except SessionError Session) (f : Fault)
    (h : (of options d s opened).fault = some f) : f.endsRuns = true := by
  cases opened with
  | error e =>
    cases h
    rfl
  | ok session =>
    -- a run with a report ends in the same fault
    let r := Report.create "" ⟨"", ""⟩ ⟨"", "", "", "", "", "", "", "", ""⟩
    have hreported : (Replay.ready d options session (some r)).report = some r := rfl
    obtain ⟨_, hfault, _⟩ := Replay.run_agrees (x := .ready d options session none)
      (y := .ready d options session (some r)) s rfl rfl
    exact (Replay.run_tells s hreported).2 f (hfault.trans h)

end Course

theorem liveTest_course (options : Options) (d : TestId) (s : Script) (r : Report)
    (opened : Except SessionError Session) :
    let c := Course.of options d s opened
    ∃ sitting, liveTest options d s r opened = (sitting, writeAll (told d r.clock
        (runEvents c.held c.fault ++ c.messages.map (.property verificationProperty))) r) ∧
      sitting.fault? = c.fault ∧ sitting.combination = d.fixture := by
  cases opened with
  | error e => exact ⟨_, rfl, rfl, rfl⟩
  | ok session =>
    obtain ⟨hheld, hfault, hagrees⟩ := Replay.run_agrees (x := .ready d options session none)
      (y := .ready d options session (some r)) s rfl rfl
    have hreport := liveScript_tells options d s session r
    dsimp only at hreport
    rw [hheld, hfault, hagrees.verificationErrors] at hreport
    have hresult : (Sitting.fault? ⟨d.fixture, (liveScript options d s session r).2.1,
        (liveScript options d s session r).1⟩) =
        errorOf? (Replay.run s (.ready d options session (some r))) := by
      rw [liveScript]
      cases Replay.run s (.ready d options session (some r)) <;> rfl
    exact ⟨_, congrArg (Prod.mk _) hreport, hresult.trans hfault, rfl⟩

/-- The summary after a run that ended with a fault, or well. -/
def Summary.count (fault : Option Fault) (s : Summary) : Summary :=
  { s with
    runs := s.runs + 1
    aborted := s.aborted + if fault.any (!·.isUnknownCommand) then 1 else 0
    invalid := s.invalid + if fault.any Fault.isUnknownCommand then 1 else 0 }

theorem concludeTest_eq (d : TestId) (sitting : Sitting) (s : Summary) (r : Report) :
    concludeTest d sitting.result s r = (s.count sitting.fault?,
      writeAll (told d r.clock
        (if sitting.fault?.any Fault.isUnknownCommand then [.invalid] else [])) r) := by
  obtain ⟨_, _, result⟩ := sitting
  cases result with
  | ok u => rfl
  | error f => cases f <;> rfl

/-- One more test writes the events of its course, and the summary counts its fault. -/
theorem Record.after_course (x : Record) (options : Options) (d : TestId) (s : Script)
    (opened : Except SessionError Session) :
    let c := Course.of options d s opened
    ∃ sitting, x.after options d s opened =
        ⟨x.summary.count c.fault, writeAll (told d x.report.clock c.events) x.report,
          x.sittings ++ [sitting]⟩ ∧
      sitting.fault? = c.fault ∧ sitting.combination = d.fixture := by
  intro c
  obtain ⟨sitting, htest, hfault, hcombination⟩ :=
    liveTest_course options d s (x.report.begin d) opened
  refine ⟨sitting, ?_, hfault, hcombination⟩
  rw [after, htest]
  dsimp only
  rw [concludeTest_eq, hfault, ← Report.writeAll_told_append]
  rfl

/-! ## One test after the other -/

section

variable {σ : Type} (openSession : String → StateM σ (Except SessionError Session))
  (options : Options)

theorem liveTests_cons (d : TestId) (script : Script) (rest : List (TestId × Script))
    (x : Record) (t : σ) :
    liveTests options openSession ((d, script) :: rest) x t =
      liveTests options openSession rest (x.after options d script (openSession d.fixture t).1)
        (openSession d.fixture t).2 := rfl

/-- The courses of tests, each with the session that is opened for it. -/
def courses : List (TestId × Script) → σ → List (TestId × Course)
  | [], _ => []
  | (d, s) :: rest, t =>
    (d, .of options d s (openSession d.fixture t).1) :: courses rest (openSession d.fixture t).2

theorem liveTests_courses (tests : List (TestId × Script)) (x : Record) (t : σ) :
    let cs := courses openSession options tests t
    let y := (liveTests options openSession tests x t).1
    y.summary = cs.foldl (fun s c => s.count c.2.fault) x.summary ∧
      y.report = writeAll (toldAll x.report.clock (cs.map fun c => (c.1, c.2.events))) x.report ∧
      y.sittings.map Sitting.fault? = x.sittings.map Sitting.fault? ++ cs.map (·.2.fault) := by
  induction tests generalizing x t with
  | nil => exact ⟨rfl, rfl, (List.append_nil _).symm⟩
  | cons test rest ih =>
    obtain ⟨d, s⟩ := test
    -- the first test adds its course to the record, and the others go on from there
    obtain ⟨sitting, hx, hfault, _⟩ := x.after_course options d s (openSession d.fixture t).1
    obtain ⟨hsummary, hreport, hsittings⟩ :=
      ih (x.after options d s (openSession d.fixture t).1) (openSession d.fixture t).2
    rw [hx] at hsummary hreport hsittings
    dsimp only
    rw [liveTests_cons, hx]
    refine ⟨hsummary, ?_, ?_⟩
    · rw [hreport, Report.clock_writeAll_told, ← Report.writeAll_append]
      rfl
    · rw [hsittings, List.map_append, List.append_assoc]
      exact congrArg (fun f => x.sittings.map Sitting.fault? ++
        f :: (courses openSession options rest (openSession d.fixture t).2).map (·.2.fault)) hfault

end

end Selenese.Suite
