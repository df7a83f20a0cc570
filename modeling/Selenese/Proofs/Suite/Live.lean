import Selenese.Proofs.Suite.Course

/-!
# Selenese.Proofs.Suite.Live

What a live run of a suite leaves.

* `Record.after_tells`: what one more test adds to the summary, to the report and to the sittings.
* `Balanced x`: the summary, the report and the sittings of `x` count the same outcomes.
  `Balanced.after`: one more test keeps them in balance.
* `liveTests_keeps`: what every test keeps, all tests keep. `liveTests_sittings`: sessions are asked
  for in the order of the tests.
* `liveRun_accounts`: a live run of a suite that can be read loses no outcome.
-/

namespace Selenese.Suite

open Report (Event writeAll told)
open Replay (runEvents)

/-! ## One test -/

/-- Every run has one outcome. -/
theorem Summary.count_outcome (fault : Option Fault) (s : Summary) :
    (s.count fault).invalid + (s.count fault).aborted + (if fault.isNone then 1 else 0) =
      s.invalid + s.aborted + 1 := by
  cases fault with
  | none => rfl
  | some f =>
    cases hf : f.isUnknownCommand <;> simp [count, hf] <;> omega

/-- One more test adds one sitting; the summary counts how it ended, and the report is told. -/
theorem Record.after_tells (x : Record) (options : Options) (d : TestId) (s : Script)
    (opened : Except SessionError Session) :
    ∃ (sitting : Sitting) (held : Nat) (messages : List String),
      x.after options d s opened =
        ⟨x.summary.count sitting.fault?,
          writeAll (told d x.report.clock (testEvents held sitting.fault? messages)) x.report,
          x.sittings ++ [sitting]⟩ ∧
      sitting.combination = d.fixture ∧ ∀ f, sitting.fault? = some f → f.endsRuns = true := by
  obtain ⟨sitting, hx, hfault, hcombination⟩ := x.after_course options d s opened
  rw [Course.events, ← hfault] at hx
  refine ⟨sitting, _, _, hx, hcombination, ?_⟩
  intro f hf
  exact Course.endsRuns_of options d s opened f (hfault ▸ hf)

/-! ## What is counted -/

theorem countP_testEvents {p : Event → Bool} (hbegun : p .begun = false)
    (hpassed : p .passed = false) (hproperty : ∀ name value, p (.property name value) = false)
    (held : Nat) (fault : Option Fault) (messages : List String) :
    (testEvents held fault messages).countP p =
      (fault.elim [] Fault.told).countP p +
        if p .invalid ∧ fault.any Fault.isUnknownCommand then 1 else 0 := by
  have hmessages : (messages.map (Event.property verificationProperty)).countP p = 0 := by
    rw [List.countP_map, List.countP_eq_zero]
    intro m _
    simp [hproperty]
  rw [testEvents, List.countP_cons, List.countP_append, List.countP_append,
    Replay.countP_runEvents, hmessages]
  cases fault.any Fault.isUnknownCommand <;> cases hinvalid : p .invalid <;>
    simp [hbegun, hpassed, hinvalid]

/-- A fault that ends a run is an unknown command, or else one failure or one error is told of
it. -/
theorem endsRuns_counts {fault : Option Fault} (h : ∀ f, fault = some f → f.endsRuns = true) :
    (if fault.any Fault.isFailedAssertion then 1 else 0) +
        (if fault.any Fault.isBreakdown then 1 else 0) =
      if fault.any (!·.isUnknownCommand) then 1 else 0 := by
  cases fault with
  | none => rfl
  | some f =>
    have hf := h f rfl
    cases f <;> first
      | rfl
      | cases hf

theorem tally_testEvents (d : TestId) (held : Nat) {fault : Option Fault} (messages : List String)
    (r : Report) (h : ∀ f, fault = some f → f.endsRuns = true) :
    let tally := (writeAll (told d r.clock (testEvents held fault messages)) r).tally
    tally.failures + tally.errors =
        r.tally.failures + r.tally.errors + (if fault.any (!·.isUnknownCommand) then 1 else 0) ∧
      tally.invalid = r.tally.invalid + (if fault.any Fault.isUnknownCommand then 1 else 0) ∧
      tally.ignored = r.tally.ignored ∧ tally.inconclusive = r.tally.inconclusive := by
  intro tally
  obtain ⟨herrors, hfailures, hinconclusive, hignored, hinvalid⟩ :=
    Report.tally_writeAll (told d r.clock (testEvents held fault messages)) r
  have hcount {p : Event → Bool} (hbegun : p .begun = false) (hpassed : p .passed = false)
      (hproperty : ∀ name value, p (.property name value) = false) :=
    (Report.countP_told d r.clock p _).trans
      (countP_testEvents hbegun hpassed hproperty held fault messages)
  refine ⟨?_, ?_, ?_, ?_⟩
  · rw [hfailures, herrors, hcount rfl rfl fun _ _ => rfl, hcount rfl rfl fun _ _ => rfl,
      Replay.countP_isFailed, Replay.countP_isException, ← endsRuns_counts h]
    simp [Event.isFailed, Event.isException]
    omega
  · rw [hinvalid, hcount (p := fun e => decide (e = .invalid)) rfl rfl fun _ _ => rfl,
      Replay.countP_told_eq_zero Event.ne_invalid_of_fault]
    simp
  · rw [hignored, hcount rfl rfl fun _ _ => rfl,
      Replay.countP_told_eq_zero Event.not_isIgnored_of_fault]
    rfl
  · rw [hinconclusive, hcount rfl rfl fun _ _ => rfl,
      Replay.countP_told_eq_zero Event.not_isInconclusive_of_fault]
    rfl

/-! ## A run of tests -/

/-- The summary, the report and the sittings count the same outcomes. -/
structure Balanced (x : Record) : Prop where
  runs : x.sittings.length = x.summary.runs
  outcomes : x.summary.invalid + x.summary.aborted + x.sittings.countP (·.fault?.isNone) =
    x.summary.runs
  invalid : x.report.tally.invalid = x.summary.invalid
  aborted : x.report.tally.failures + x.report.tally.errors = x.summary.aborted
  ignored : x.report.tally.ignored = 0
  inconclusive : x.report.tally.inconclusive = 0

theorem Balanced.after {x : Record} (h : Balanced x) (options : Options) (d : TestId) (s : Script)
    (opened : Except SessionError Session) : Balanced (x.after options d s opened) := by
  obtain ⟨sitting, held, messages, hx, _, hfault⟩ := x.after_tells options d s opened
  obtain ⟨haborted, hinvalid, hignored, hinconclusive⟩ :=
    tally_testEvents d held messages x.report hfault
  rw [hx]
  constructor
  · exact (List.length_append ..).trans (congrArg (· + 1) h.runs)
  · have houtcome := Summary.count_outcome sitting.fault? x.summary
    have houtcomes := h.outcomes
    have hruns : (x.summary.count sitting.fault?).runs = x.summary.runs + 1 := rfl
    dsimp only
    rw [List.countP_append, List.countP_singleton, hruns]
    omega
  · exact hinvalid.trans (congrArg (· + _) h.invalid)
  · exact haborted.trans (congrArg (· + _) h.aborted)
  · exact hignored.trans h.ignored
  · exact hinconclusive.trans h.inconclusive

section

variable {σ : Type} (openSession : String → StateM σ (Except SessionError Session))
  (options : Options)

/-- What opens sessions, after it was asked for some of them one after the other. -/
def afterOpening (combinations : List String) (t : σ) : σ :=
  combinations.foldl (fun t c => (openSession c t).2) t

/-- What every test keeps, all tests keep. -/
theorem liveTests_keeps {P : Record → Prop}
    (h : ∀ x d s opened, P x → P (x.after options d s opened)) (tests : List (TestId × Script))
    {x : Record} (hx : P x) (t : σ) : P (liveTests options openSession tests x t).1 := by
  induction tests generalizing x t with
  | nil => exact hx
  | cons test rest ih =>
    obtain ⟨d, script⟩ := test
    rw [liveTests_cons]
    exact ih (h x d script _ hx) _

theorem liveTests_balanced (tests : List (TestId × Script)) {x : Record} (hx : Balanced x) (t : σ) :
    Balanced (liveTests options openSession tests x t).1 :=
  liveTests_keeps openSession options (fun _ d s opened h => h.after options d s opened) tests hx t

theorem liveTests_scripts (tests : List (TestId × Script)) (x : Record) (t : σ) :
    (liveTests options openSession tests x t).1.summary.scripts = x.summary.scripts ∧
      (liveTests options openSession tests x t).1.summary.skipped = x.summary.skipped := by
  refine liveTests_keeps openSession options
    (P := fun y => y.summary.scripts = x.summary.scripts ∧ y.summary.skipped = x.summary.skipped)
    (fun y d s opened h => ?_) tests ⟨rfl, rfl⟩ t
  obtain ⟨sitting, held, messages, hy, _, _⟩ := y.after_tells options d s opened
  rw [hy]
  exact h

theorem liveTests_sittings (tests : List (TestId × Script)) (x : Record) (t : σ) :
    (liveTests options openSession tests x t).1.sittings.map Sitting.combination =
        x.sittings.map Sitting.combination ++ tests.map (·.1.fixture) ∧
      (liveTests options openSession tests x t).2 =
        afterOpening openSession (tests.map (·.1.fixture)) t := by
  induction tests generalizing x t with
  | nil => exact ⟨(List.append_nil _).symm, rfl⟩
  | cons test rest ih =>
    obtain ⟨d, script⟩ := test
    obtain ⟨sitting, held, messages, hx, hcombination, _⟩ :=
      x.after_tells options d script (openSession d.fixture t).1
    obtain ⟨hsittings, hstate⟩ :=
      ih (x.after options d script (openSession d.fixture t).1) (openSession d.fixture t).2
    rw [liveTests_cons]
    refine ⟨?_, hstate⟩
    rw [hsittings, hx, List.map_append, List.append_assoc]
    exact congrArg (fun c => x.sittings.map Sitting.combination ++ (c :: rest.map (·.1.fixture)))
      hcombination

end

/-! ## A live run -/

theorem tests_fixtures (settings : Settings) (suite : String) (entries : List Entry) :
    (tests settings suite entries).map (·.1.fixture) =
      (List.replicate entries.length settings.combinations).flatten := by
  induction entries with
  | nil => rfl
  | cons e rest ih =>
    rw [tests, List.flatMap_cons, List.map_append, ← tests, ih, List.length_cons,
      List.replicate_succ, List.flatten_cons, List.map_map]
    exact congrArg (· ++ _) (List.map_id _)

theorem loadedOf_counts (entries : List (Option Entry)) :
    (loadedOf entries).entries.length + (loadedOf entries).skipped = entries.length := by
  induction entries with
  | nil => rfl
  | cons e rest ih =>
    cases e with
    | none =>
      have hskipped : (loadedOf (none :: rest)).skipped = (loadedOf rest).skipped + 1 := by
        simp [loadedOf]
      have hentries : (loadedOf (none :: rest)).entries = (loadedOf rest).entries := rfl
      rw [hskipped, hentries, List.length_cons]
      omega
    | some e =>
      have hskipped : (loadedOf (some e :: rest)).skipped = (loadedOf rest).skipped := by
        simp [loadedOf]
      have hentries : (loadedOf (some e :: rest)).entries = e :: (loadedOf rest).entries := rfl
      rw [hskipped, hentries, List.length_cons, List.length_cons]
      omega

theorem load_files {σ : Type} (files : String → Except FileError String) (settings : Settings)
    (path : String) {text : String} {links : List Link} (htext : files path = .ok text)
    (hlinks : Link.parse text = .ok links) :
    (load (fun p => pure (files p)) settings path : StateM σ (Except Fault Loaded)) =
      pure (.ok (loadedOf (links.map fun link =>
        let place := Path.join (Path.folder path) link.target
        entryOf? settings link place (files place)))) := by
  simp [load, entriesOf, fromFile, htext, hlinks]

/-- **A live run loses no outcome.** Whatever the settings, whatever scripts can be read, and
however sessions are opened: a suite that can be read is run. Every link is a script or skipped;
every script is run once with every combination, and for each run one session is asked for, script
by script; every run is invalid, aborted or ended well; and the report counts as many invalid marks
as the summary, and as many failures and errors together as it counts aborted runs. -/
theorem liveRun_accounts {σ : Type} (files : String → Except FileError String) (settings : Settings)
    (openSession : String → StateM σ (Except SessionError Session)) (path name : String)
    (created : Stamp) (environment : Report.Environment) {text : String} {links : List Link}
    (htext : files path = .ok text) (hlinks : Link.parse text = .ok links) (t : σ) :
    ∃ x t', liveRun (fun p => pure (files p)) settings openSession path
        (.create name created environment) t = (.ok x, t') ∧
      x.summary.scripts + x.summary.skipped = links.length ∧
      x.summary.runs = x.summary.scripts * settings.combinations.length ∧
      x.report.tally.invalid = x.summary.invalid ∧
      x.report.tally.failures + x.report.tally.errors = x.summary.aborted ∧
      x.report.tally.ignored = 0 ∧ x.report.tally.inconclusive = 0 ∧
      x.summary.invalid + x.summary.aborted + x.sittings.countP (·.fault?.isNone) = x.summary.runs ∧
      x.sittings.map Sitting.combination =
        (List.replicate x.summary.scripts settings.combinations).flatten ∧
      t' = afterOpening openSession (x.sittings.map Sitting.combination) t := by
  let loaded := loadedOf (links.map fun link =>
    let place := Path.join (Path.folder path) link.target
    entryOf? settings link place (files place))
  let start : Record := ⟨loaded.summary, .create name created environment, []⟩
  let out :=
    liveTests settings.options openSession (tests settings (nameOf path) loaded.entries) start t
  have hrun : liveRun (fun p => pure (files p)) settings openSession path
      (.create name created environment) t = (.ok out.1, out.2) := by
    rw [liveRun, load_files files settings path htext hlinks]
    rfl
  have hstart : Balanced start := ⟨rfl, rfl, rfl, rfl, rfl, rfl⟩
  have hbalanced : Balanced out.1 := liveTests_balanced openSession settings.options _ hstart t
  obtain ⟨hscripts, hskipped⟩ := liveTests_scripts openSession settings.options
    (tests settings (nameOf path) loaded.entries) start t
  obtain ⟨hsittings, hstate⟩ := liveTests_sittings openSession settings.options
    (tests settings (nameOf path) loaded.entries) start t
  have hcombinations : out.1.sittings.map Sitting.combination =
      (List.replicate out.1.summary.scripts settings.combinations).flatten := by
    rw [hsittings, tests_fixtures, hscripts]
    rfl
  refine ⟨out.1, out.2, hrun, ?_, ?_, hbalanced.invalid, hbalanced.aborted, hbalanced.ignored,
    hbalanced.inconclusive, hbalanced.outcomes, hcombinations, ?_⟩
  · rw [hscripts, hskipped]
    exact (loadedOf_counts _).trans (List.length_map _)
  · have hlength := congrArg List.length hcombinations
    rw [List.length_map, hbalanced.runs, List.length_flatten, List.map_replicate,
      List.sum_replicate_nat] at hlength
    exact hlength
  · rw [hsittings]
    exact hstate

/-- One script with two fixtures, of which the first has no session. -/
theorem liveRun_accounts_fixtures :
    let suite := "<table class=selenium><tr><td><a href=home>Home</a></table>"
    let script := "<table><tr><td>open<td><td>"
    let files : String → Except FileError String :=
      fun path => .ok (if path = "suite" then suite else script)
    let settings : Settings := { Settings.standard with combinations := ["de", "en"] }
    let openSession : String → StateM (List String) (Except SessionError Session) := fun c opened =>
      (if c = "de" then .error (.backend "grid unavailable") else .ok .empty, opened ++ [c])
    let environment := Report.Environment.capture ⟨"linux", "x64", "/", "host"⟩ fun _ => none
    let report := Report.create "Shop" ⟨"2024-05-01", "12:00:00"⟩ environment
    files "suite" = .ok suite ∧ Link.parse suite = .ok [⟨"Home", "home"⟩] ∧
      ∃ x, liveRun (fun p => pure (files p)) settings openSession "suite" report [] =
        (.ok x, ["de", "en"]) ∧
        x.summary = ⟨1, 0, 2, 1, 0⟩ ∧ x.report.tally.failures + x.report.tally.errors = 1 := by
  intro suite script files settings openSession environment report
  have hlinks : Link.parse suite = .ok [⟨"Home", "home"⟩] := by
    have hparse : (Link.parse suite).toOption = some [⟨"Home", "home"⟩] := by decide +kernel
    cases h : Link.parse suite with
    | error f =>
      rw [h] at hparse
      cases hparse
    | ok links =>
      rw [h] at hparse
      cases hparse
      rfl
  have hopened :
      (liveRun (fun p => pure (files p)) settings openSession "suite" report []).2 =
        ["de", "en"] := by decide +kernel
  have hsummary :
      (liveRun (fun p => pure (files p)) settings openSession "suite" report []).1.toOption.map
        Record.summary = some ⟨1, 0, 2, 1, 0⟩ := by decide +kernel
  obtain ⟨x, t', hrun, _, _, _, haborted, _⟩ :=
    liveRun_accounts files settings openSession "suite" "Shop" ⟨"2024-05-01", "12:00:00"⟩
      environment rfl hlinks []
  rw [hrun] at hopened hsummary
  have hx : x.summary = ⟨1, 0, 2, 1, 0⟩ := Option.some.inj hsummary
  have ht : t' = ["de", "en"] := hopened
  refine ⟨rfl, hlinks, x, ht ▸ hrun, hx, ?_⟩
  rw [haborted, hx]

end Selenese.Suite
