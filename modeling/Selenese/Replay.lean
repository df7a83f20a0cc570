import Selenese.Command.Execute
import Selenese.Fault
import Selenese.Report

/-!
# Selenese.Replay

Replaying a script against a page session, line by line.

* `classify` decides what the end of a command means: a failed check, a missing element or a timeout is fatal for an
  assertion and a verification error for any other line; every other failure is fatal.
* `executeLine` runs one line and tells the report.
* `run` replays a script and stops at the first fatal line. Nothing of an earlier run is left but the
  session and the report.
-/

namespace Selenese

inductive Phase where
  | idle
  | running
  | completed
deriving DecidableEq, Repr

def Phase.name : Phase → String
  | .idle => "Idle"
  | .running => "Running"
  | .completed => "Completed"

/-- What the end of a line means. -/
inductive Outcome where
  /-- An assertion held. -/
  | passed
  /-- Another line was carried out. -/
  | done
  /-- A check did not hold, and the run goes on. -/
  | softFailure (message : String)
  /-- An assertion did not hold, perhaps since a wait gave up after some attempts. -/
  | fatalFailure (message : String) (attempts : Option Nat)
  | broken (fault : Fault)
deriving DecidableEq, Repr

structure Replay where
  test : TestId
  options : Options
  session : Session
  report : Option Report
  phase : Phase
  baseUrl : String
  store : Variables
  verificationErrors : List String
  lastError : Option String

namespace Replay

/-- A replay before its first run. -/
def ready (test : TestId) (options : Options) (session : Session) (report : Option Report) : Replay :=
  ⟨test, options, session, report, .idle, "", .empty, [], none⟩

def context (r : Replay) : Context := ⟨r.session, r.baseUrl, r.store⟩

def withContext (r : Replay) (x : Context) : Replay :=
  { r with session := x.session, baseUrl := x.baseUrl, store := x.store }

def tell (r : Replay) (f : Report → Report) : Replay := { r with report := r.report.map f }

/-- Why a check did not hold, if a failure is one of a check; and the attempts of a wait. -/
def softReason? : Failure → Option (String × Option Nat)
  | .check m => some (m, none)
  | .timeout t => some (t.message, some t.attempts)
  | .session e => if e.isSoft then some (e.unwrap.message, none) else none
  | .invalid _ => none

/-- The fault of a failure that is not one of a check. -/
def faultOf : Failure → Fault
  | .session e => .session e
  | f => .invalidArgument f.message

def classify (l : Line) : Except Failure Unit → Outcome
  | .ok () => if l.isAssertion then .passed else .done
  | .error f =>
    match softReason? f with
    | some (m, attempts) => if l.isAssertion then .fatalFailure m attempts else .softFailure m
    | none => .broken (faultOf f)

/-- How a line is named where it failed, with its variables expanded. -/
def location (v : Variables) (l : Line) : String :=
  ", ".intercalate [l.command, v.decode l.target, v.decode l.value]

/-- Draws the consequences of an outcome. -/
def conclude (l : Line) (o : Outcome) : EStateM Fault Replay Unit := fun r =>
  match o with
  | .passed => .ok () (r.tell (Report.passed r.test))
  | .done => .ok () r
  | .softFailure m => .ok () { r with verificationErrors := r.verificationErrors ++ [m] }
  | .fatalFailure m attempts =>
    let place := location r.store l
    let fault : Fault :=
      match attempts with
      | some n => .timeout n place
      | none => .assertionFailed m place
    .error fault (r.tell (Report.failed r.test m place))
  | .broken f => .error f (r.tell (Report.exception r.test f.message f.causes))

def executeLine (l : Line) : EStateM Fault Replay Unit := fun r =>
  match Command.lookup? l.command with
  | none => .error (.unsupportedCommand l.command) r
  | some behaviour =>
    match behaviour.execute r.options l r.context with
    | .ok () x => conclude l (classify l (.ok ())) (r.withContext x)
    | .error f x => conclude l (classify l (.error f)) (r.withContext x)

/-- Forgets an earlier run. -/
def begin (s : Script) (r : Replay) : Replay :=
  { r with
    phase := .running, baseUrl := s.baseUrl, store := .empty, verificationErrors := [], lastError := none }

/-- Runs lines up to the first fatal one. Before each line, `before` is told the line and the session. -/
def runLines {α : Type} (before : Line → Session → α) :
    List Line → Replay → List α × EStateM.Result Fault Replay Unit
  | [], r => ([], .ok () r)
  | l :: rest, r =>
    let notice := before l r.session
    match executeLine l r with
    | .ok () r =>
      let (notices, result) := runLines before rest r
      (notice :: notices, result)
    | .error f r => ([notice], .error f r)

/-- Ends a run. -/
def finish : EStateM.Result Fault Replay Unit → EStateM.Result Fault Replay Unit
  | .ok () r => .ok () { r with phase := .completed }
  | .error f r => .error f { r with phase := .completed, lastError := some f.message }

/-- Replays a script; also answers what `before` made of the executed lines. -/
def runNoting {α : Type} (before : Line → Session → α) (s : Script) (r : Replay) :
    List α × EStateM.Result Fault Replay Unit :=
  let (notices, result) := runLines before s.lines (r.begin s)
  (notices, finish result)

def run (s : Script) : EStateM Fault Replay Unit := fun r => (runNoting (fun _ _ => ()) s r).2

end Replay

end Selenese
