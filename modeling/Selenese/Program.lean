import Selenese.Arguments.Message
import Selenese.Report.Xml
import Selenese.Settings.Overrides
import Selenese.Suite

/-!
# Selenese.Program

What the program does with a command line.

* It reaches files and the host through `Surroundings` only, so that it runs on a folder in memory as on a disk.
* `run` gives what is written to the two outputs and the exit code: 0 for success, 1 for a failure and 2 for a command
  line that means nothing.
-/

namespace Selenese

/-- How much a run tells. -/
inductive Verbosity where
  | quiet
  | normal
  | verbose
  | debug
deriving DecidableEq, Repr

namespace Verbosity

/-- Quiet wins over any count. -/
def ofFlags (count : Nat) (quiet : Bool) : Verbosity :=
  if quiet then .quiet
  else
    match count with
    | 0 => .normal
    | 1 => .verbose
    | _ => .debug

def isQuiet (v : Verbosity) : Bool := v = .quiet

/-- The least severe notices that are told. -/
def filter : Verbosity → String
  | quiet => "error"
  | normal => "info"
  | verbose => "debug"
  | debug => "trace"

end Verbosity

/-- Where the program runs. -/
structure Surroundings (m : Type → Type) where
  read : String → m (Except FileError String)
  write : (path text : String) → m (Except FileError Unit)
  /-- The environment variables. -/
  environment : String → Option String
  host : Report.Host
  now : Stamp

/-- What the program leaves. -/
structure Ending where
  exitCode : Nat
  output : String
  /-- What is told beside the output. -/
  notices : String
deriving DecidableEq, Repr

namespace Program

/-- Why a dry run came to no report. -/
inductive Failure where
  | settings (obstacle : Settings.Obstacle)
  | suite (fault : Fault)
  /-- The report cannot be written. -/
  | report (path : String) (fault : Fault)
deriving DecidableEq, Repr

def Failure.message : Failure → String
  | settings o => o.message
  | suite f => "Replay error: " ++ f.message
  | report path f => "Report generation failed: " ++ path ++ ": " ++ f.message

def overridesOf (d : DryRun) : Overrides := ⟨d.baseUrl, d.combinations, d.name⟩

/-- The counts of a run in one line. -/
def summaryLine (s : Suite.Summary) : String :=
  toString s.scripts ++ " script(s), " ++ toString s.runs ++ " run(s), " ++ toString s.invalid ++ " invalid, " ++
    toString s.skipped ++ " skipped\n"

def commandNames : String := String.join (Command.names.map fun n => n ++ "\n")

variable {m : Type → Type} [Monad m] (w : Surroundings m)

/-- The settings of a dry run. -/
def settingsOf (d : DryRun) : m (Except Settings.Obstacle Settings) := do
  let file ←
    match d.config with
    | none => pure none
    | some path => do pure (some (path, ← w.read path))
  return Settings.assemble file (overridesOf d)

def newReport (s : Settings) : Report :=
  .create s.runName w.now (.capture w.host w.environment)

/-- Writes a report to its file; without a file it is the output. -/
def deliver (output : Option String) (r : Report) : m (Except Failure String) := do
  match output with
  | none => return .ok r.toXml
  | some path =>
    match ← w.write path r.toXml with
    | .ok () => return .ok ""
    | .error e => return .error (.report path (.file e))

/-- Runs a suite without a page and delivers the report: the counts and the output. -/
def dryRun (d : DryRun) : m (Except Failure (Suite.Summary × String)) := do
  match ← settingsOf w d with
  | .error o => return .error (.settings o)
  | .ok s =>
    match ← Suite.dryRun w.read s d.suite (newReport w s) with
    | .error f => return .error (.suite f)
    | .ok (summary, r) => return (← deliver w d.output r).map fun output => (summary, output)

def conclude (v : Verbosity) (d : DryRun) : Except Failure (Suite.Summary × String) → Ending
  | .ok (summary, output) =>
    ⟨0, output, if d.output.isSome && !v.isQuiet then summaryLine summary else ""⟩
  | .error f => ⟨1, "", "Error: " ++ f.message ++ "\n"⟩

/-- The environment variable that names a configuration. -/
def configVariable : String := "REPLAYER_CONFIG"

def invoke (i : Invocation) : m Ending :=
  match i.request with
  | .commands => return ⟨0, commandNames, ""⟩
  | .dryRun d => return conclude (.ofFlags i.verbose i.quiet) d (← dryRun w d)

def run (words : List String) : m Ending :=
  match Arguments.parse (w.environment configVariable) words with
  | .ok i => invoke w i
  | .error s => return if s.isAnswer then ⟨0, s.message, ""⟩ else ⟨2, "", s.message⟩

end Program

end Selenese
