import Selenese.Path
import Selenese.Replay
import Selenese.Settings
import Selenese.Suite.Link

/-!
# Selenese.Suite

Suites: the scripts that a page links to, each run once with every combination.

* `load` reads a suite and its scripts. A script that cannot be read is skipped.
* `dryRun` goes through the lines without a page: every known command counts as a passed assertion.
* `liveRun` replays the scripts against sessions, one for each run.
-/

namespace Selenese.Suite

/-- A script and the link that led to it. -/
structure Entry where
  link : Link
  path : String
  script : Script
deriving DecidableEq, Repr

/-- The text of the link, or the title of the script if the link is blank. -/
def Entry.testName (e : Entry) : String :=
  if Text.allBlank e.link.title then e.script.title else e.link.title

structure Summary where
  scripts : Nat
  skipped : Nat
  runs : Nat
  /-- Runs that ended at a failed assertion or another error. -/
  aborted : Nat
  /-- Runs that ended at an unknown command. -/
  invalid : Nat
deriving DecidableEq, Repr

/-- The scripts of a suite that could be read, and the number of those that could not. -/
structure Loaded where
  entries : List Entry
  skipped : Nat
deriving DecidableEq, Repr

def Loaded.summary (l : Loaded) : Summary := ⟨l.entries.length, l.skipped, 0, 0, 0⟩

/-- The name of a suite is that of its file, without the extension. -/
def nameOf (path : String) : String := (Path.stem? path).getD "suite"

/-! ## Loading -/

/-- Reads a file as something; a fault in its content tells the path too. -/
def fromFile {α : Type} (parse : String → Except Fault α) (path : String) (content : Except FileError String) :
    Except Fault α :=
  match content with
  | .error e => .error (.file e)
  | .ok text =>
    match parse text with
    | .ok a => .ok a
    | .error f => .error (.parse (path ++ ": " ++ f.message))

def overrideBaseUrl (baseUrl : Option String) (s : Script) : Script :=
  { s with baseUrl := baseUrl.getD s.baseUrl }

/-- The entry of a link, if its script can be read. -/
def entryOf? (settings : Settings) (link : Link) (path : String) (content : Except FileError String) :
    Option Entry :=
  match fromFile Script.parse path content with
  | .ok s => some ⟨link, path, overrideBaseUrl settings.baseUrl s⟩
  | .error _ => none

variable {m : Type → Type} [Monad m] (read : String → m (Except FileError String))

/-- The entries of some links; `none` for each that cannot be read. -/
def entriesOf (settings : Settings) (folder : String) (links : List Link) : m (List (Option Entry)) :=
  links.mapM fun link => do
    let path := Path.join folder link.target
    return entryOf? settings link path (← read path)

def loadedOf (entries : List (Option Entry)) : Loaded :=
  ⟨entries.filterMap id, entries.countP Option.isNone⟩

/-- Loads a suite and its scripts with a way to read files. -/
def load (settings : Settings) (path : String) : m (Except Fault Loaded) := do
  match fromFile Link.parse path (← read path) with
  | .error f => return .error f
  | .ok links => return .ok (loadedOf (← entriesOf read settings (Path.folder path) links))

/-! ## Runs -/

/-- The tests of a suite, script by script, and for each script combination by combination. -/
def tests (settings : Settings) (suite : String) (entries : List Entry) : List (TestId × Script) :=
  entries.flatMap fun e => settings.combinations.map fun c => (⟨suite, c, e.testName⟩, e.script)

/-- Goes through lines up to the first unknown command; answers whether there was none. -/
def dryLines (d : TestId) : List Line → Report → Bool × Report
  | [], r => (true, r)
  | l :: rest, r =>
    if Command.isKnown l.command then dryLines d rest (r.passed d) else (false, r.invalid d)

def dryScript (d : TestId) (s : Script) (r : Report) : Bool × Report := dryLines d s.lines (r.begin d)

def dryTests : List (TestId × Script) → Summary → Report → Summary × Report
  | [], s, r => (s, r)
  | (d, script) :: rest, s, r =>
    let (known, r) := dryScript d script r
    dryTests rest { s with runs := s.runs + 1, invalid := s.invalid + if known then 0 else 1 } r

def dryRun (settings : Settings) (path : String) (report : Report) : m (Except Fault (Summary × Report)) := do
  match ← load read settings path with
  | .error f => return .error f
  | .ok l => return .ok (dryTests (tests settings (nameOf path) l.entries) l.summary report)

/-- A session that was asked for: its combination, how it was left if it was opened, and how its run ended. -/
structure Sitting where
  combination : String
  session : Option Session
  result : Except Fault Unit

/-- The property of a test case that tells a verification error. -/
def verificationProperty : String := "verification-error"

def addVerificationErrors (d : TestId) (messages : List String) (r : Report) : Report :=
  messages.foldl (fun r m => r.addProperty d verificationProperty m) r

/-- Replays a script against a session. -/
def liveScript (options : Options) (d : TestId) (s : Script) (session : Session) (r : Report) :
    Except Fault Unit × Session × Report :=
  let noted (x : Replay) : Report := addVerificationErrors d x.verificationErrors (x.report.getD r)
  match Replay.run s (.ready d options session (some r)) with
  | .ok () x => (.ok (), x.session, noted x)
  | .error f x => (.error f, x.session, noted x)

/-- Replays a script if a session could be opened for its test. -/
def liveTest (options : Options) (d : TestId) (s : Script) (r : Report) :
    Except SessionError Session → Sitting × Report
  | .error e =>
    let f := Fault.session e
    (⟨d.fixture, none, .error f⟩, r.exception d f.message f.causes)
  | .ok session =>
    let (result, session, r) := liveScript options d s session r
    (⟨d.fixture, some session, result⟩, r)

/-- Counts the result of a run. An unknown command makes the test invalid. -/
def concludeTest (d : TestId) (result : Except Fault Unit) (s : Summary) (r : Report) : Summary × Report :=
  let s := { s with runs := s.runs + 1 }
  match result with
  | .ok () => (s, r)
  | .error (.unsupportedCommand _) => ({ s with invalid := s.invalid + 1 }, r.invalid d)
  | .error _ => ({ s with aborted := s.aborted + 1 }, r)

/-- What a live run leaves. -/
structure Record where
  summary : Summary
  report : Report
  sittings : List Sitting

/-- A record after one more test. -/
def Record.after (x : Record) (options : Options) (d : TestId) (s : Script)
    (opened : Except SessionError Session) : Record :=
  let (sitting, r) := liveTest options d s (x.report.begin d) opened
  let (summary, r) := concludeTest d sitting.result x.summary r
  ⟨summary, r, x.sittings ++ [sitting]⟩

/-- Opens a session for every test, one after the other, and replays the scripts. -/
def liveTests (options : Options) (openSession : String → m (Except SessionError Session)) :
    List (TestId × Script) → Record → m Record
  | [], x => return x
  | (d, script) :: rest, x => do
    liveTests options openSession rest (x.after options d script (← openSession d.fixture))

def liveRun (settings : Settings) (openSession : String → m (Except SessionError Session)) (path : String)
    (report : Report) : m (Except Fault Record) := do
  match ← load read settings path with
  | .error f => return .error f
  | .ok l =>
    return .ok (← liveTests settings.options openSession (tests settings (nameOf path) l.entries)
      ⟨l.summary, report, []⟩)

end Selenese.Suite
