import Selenese.Report.Environment
import Selenese.Report.Tree
import Selenese.Script

/-!
# Selenese.Report

A report of test runs: a tree of results and counts over all of them.

* Every status operation (`passed`, `failed`, `exception`, `ignored`, `inconclusive`, `invalid`) goes from the root
  over the segments of the suite path and the fixture to the test case, creates what is missing, and writes the same
  flags and the elapsed time at every level. The last write wins.
* The first segment stands for the root, whatever its text: a report has one root.
* `addProperty` creates a test case too, but writes no flags; `testCase?` creates nothing.
-/

namespace Selenese

/-- Counts over a report; they never go down. Each is kept in 32 bits and taken to stay within them: an
operation raises it by at most one. -/
structure Tally where
  /-- Test cases created. -/
  total : Nat
  errors : Nat
  failures : Nat
  /-- Inconclusive or skipped marks. -/
  inconclusive : Nat
  ignored : Nat
  invalid : Nat
deriving DecidableEq, Repr

namespace Tally

def zero : Tally := ⟨0, 0, 0, 0, 0, 0⟩

def notRun (t : Tally) : Nat := t.ignored + t.invalid

end Tally

/-- The day and the time of day, as written in a report. -/
structure Stamp where
  date : String
  time : String
deriving DecidableEq, Repr

structure Report where
  name : String
  created : Stamp
  environment : Report.Environment
  /-- The present time in microseconds. -/
  clock : Nat
  root : Option Report.Scope
  tally : Tally
  /-- When each path was first seen, or last begun. -/
  timers : List (String × Nat)

namespace Report

def create (name : String) (created : Stamp) (environment : Environment) : Report :=
  ⟨name, created, environment, 0, none, .zero, []⟩

/-- The steps from the root to the fixture of a test. -/
def path (d : TestId) : List Step :=
  (d.segments.drop 1).map (Step.mk .segment) ++ [⟨.fixture, d.fixture⟩]

def rootOf (d : TestId) : Scope := .ofStep ⟨.segment, d.segments.headD ""⟩

def testCase? (r : Report) (d : TestId) : Option TestCase :=
  r.root.bind (Scope.case? (path d) d.fullPath)

/-! ## Timers -/

def startOf (r : Report) (key : String) : Nat := (r.timers.lookup key).getD r.clock

/-- Microseconds since a path was first seen. -/
def elapsed (r : Report) (key : String) : Nat := r.clock - r.startOf key

/-- Starts the timers of paths that have none. -/
def see (r : Report) (keys : List String) : Report :=
  { r with timers := r.timers ++ (keys.filter fun k => (r.timers.lookup k).isNone).map (·, r.clock) }

/-- Starts the timer of a test again. -/
def begin (r : Report) (d : TestId) : Report :=
  { r with timers := (d.fullPath, r.clock) :: r.timers }

/-- The paths of the scopes that a test is in, from the root to the fixture. -/
def scopeKeys (d : TestId) : List String :=
  let rec go (key : String) : List String → List String
    | [] => []
    | s :: r => (key ++ "." ++ s) :: go (key ++ "." ++ s) r
  let first := d.segments.headD ""
  first :: go first (d.segments.drop 1) ++ [d.fixturePath]

/-! ## Operations -/

/-- Counts a test case that is about to be created. -/
def countCase (r : Report) (d : TestId) : Tally :=
  if (r.testCase? d).isNone then { r.tally with total := r.tally.total + 1 } else r.tally

/-- Writes flags and times from the root to a test case, and changes the test case and the tally. -/
def record (d : TestId) (update : Flags) (onCase : TestCase → TestCase) (onTally : Tally → Tally)
    (r : Report) : Report :=
  let touch (key : String) : Scope → Scope := Scope.touch update (r.elapsed key)
  let keys := scopeKeys d
  let steps := (path d).zip ((keys.drop 1).map touch)
  let atCase (c : TestCase) : TestCase := (onCase c).touch update (r.elapsed d.fullPath)
  let root := touch (keys.headD "") (r.root.getD (rootOf d))
  { r.see (keys ++ [d.fullPath]) with
    root := some (root.descend steps (Scope.alterCase d.fullPath atCase))
    tally := onTally (r.countCase d) }

def passed (d : TestId) : Report → Report :=
  record d ⟨some true, some .success, some true⟩ (fun c => { c with asserts := c.asserts + 1 }) id

/-- An assertion failed at a line. -/
def failed (d : TestId) (message location : String) : Report → Report :=
  record d ⟨some true, some .failed, some false⟩ (fun c => { c with failure := some ⟨message, location⟩ })
    fun t => { t with failures := t.failures + 1 }

/-- The text of an error and of what caused it, one cause a line. -/
def traceOf (message : String) (causes : List String) : String :=
  "\n".intercalate (message :: causes.map ("caused by: " ++ ·))

/-- A run ended for another reason than an assertion. -/
def exception (d : TestId) (message : String) (causes : List String) : Report → Report :=
  record d ⟨some true, some .failed, none⟩
    (fun c => { c with failure := some ⟨message, traceOf message causes⟩ })
    fun t => { t with errors := t.errors + 1 }

def ignored (d : TestId) (reason : String) : Report → Report :=
  record d ⟨some false, some .ignored, none⟩ (fun c => { c with reason := some reason })
    fun t => { t with ignored := t.ignored + 1 }

/-- Also the mark of a skipped test. -/
def inconclusive (d : TestId) : Report → Report :=
  record d ⟨some false, some .inconclusive, none⟩ id fun t => { t with inconclusive := t.inconclusive + 1 }

def invalid (d : TestId) : Report → Report :=
  record d ⟨some false, some .invalid, some false⟩ id fun t => { t with invalid := t.invalid + 1 }

def addProperty (d : TestId) (name value : String) (r : Report) : Report :=
  let root := r.root.getD (rootOf d)
  { r with
    root := some (root.alter (path d) (Scope.alterCase d.fullPath (TestCase.addProperty name value)))
    tally := r.countCase d }

end Report

end Selenese
