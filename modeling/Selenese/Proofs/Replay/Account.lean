import Selenese.Proofs.Replay.Line
import Selenese.Proofs.Report.Tally

/-!
# Selenese.Proofs.Replay.Account

What a run tells its report.

* `Replay.held` counts the assertions that held in a run.
* `Replay.ending_tells`: lines tell a report as many passed assertions as held, then what the fault
  that ended them is worth, and nothing else.
* `Replay.run_accounts`: so the fault of a run and the counts of its report agree, whatever was in
  the report before.
-/

namespace Selenese

open Report (Entry Event writeAll)

namespace Fault

/-- What a report is told of the fault that ended a run. -/
def told : Fault → List Event
  | assertionFailed m place => [.failed m place]
  | session e => [.exception (message (session e)) (causes (session e))]
  | invalidArgument m => [.exception (message (invalidArgument m)) (causes (invalidArgument m))]
  | _ => []

def isUnknownCommand : Fault → Bool
  | unsupportedCommand _ => true
  | _ => false

def isFailedAssertion : Fault → Bool
  | assertionFailed .. => true
  | _ => false

/-- An error of the session, or a line that a command cannot use. -/
def isBreakdown : Fault → Bool
  | session _ | invalidArgument _ => true
  | _ => false

/-- The faults that end runs. -/
def endsRuns (f : Fault) : Bool := f.isUnknownCommand || f.isFailedAssertion || f.isBreakdown

end Fault

namespace Replay

/-- The number of assertions among lines that hold when the lines are run. -/
def held : List Line → Replay → Nat
  | [], _ => 0
  | l :: rest, x =>
    match executeLine l x with
    | .ok () x' => (if l.isAssertion then 1 else 0) + held rest x'
    | .error _ _ => 0

/-- What a report is told of the end of a line. -/
def lineEvents (l : Line) : EStateM.Result Fault Replay Unit → List Event
  | .ok () _ => if l.isAssertion then [.passed] else []
  | .error f _ => f.told

theorem told_faultOf (f : Failure) :
    (faultOf f).told = [.exception (faultOf f).message (faultOf f).causes] := by
  cases f <;> rfl

theorem endsRuns_faultOf (f : Failure) : (faultOf f).endsRuns = true := by
  cases f <;> rfl

theorem Ends.tells {l : Line} {x : Replay} {out : EStateM.Result Fault Replay Unit}
    (h : Ends l x out) {r : Report} (hr : x.report = some r) :
    (stateAfter out).test = x.test ∧
      (stateAfter out).report = some (writeAll (Report.told x.test r.clock (lineEvents l out)) r) ∧
      ∀ f, errorOf? out = some f → f.endsRuns = true := by
  cases h with
  | unknown hb => exact ⟨rfl, hr, fun f hf => by cases hf; rfl⟩
  | done hb hx ha =>
    refine ⟨rfl, ?_, fun f hf => by cases hf⟩
    rw [lineEvents, ha]
    exact hr
  | passed hb hx ha =>
    refine ⟨rfl, ?_, fun f hf => by cases hf⟩
    rw [lineEvents, ha]
    show x.report.map (Report.passed x.test) = _
    rw [hr]
    rfl
  | soft hb hx hs ha =>
    refine ⟨rfl, ?_, fun f hf => by cases hf⟩
    rw [lineEvents, ha]
    exact hr
  | @fatal b c f m hb hx hs ha =>
    refine ⟨rfl, ?_, fun f hf => by cases hf; rfl⟩
    show x.report.map (Report.failed x.test m (location c.store l)) = _
    rw [hr]
    rfl
  | @broken b c f hb hx hs =>
    refine ⟨rfl, ?_, fun f' hf => by cases hf; exact endsRuns_faultOf f⟩
    rw [lineEvents, told_faultOf]
    show x.report.map (Report.exception x.test (faultOf f).message (faultOf f).causes) = _
    rw [hr]
    rfl

/-! ## Counting what is told -/

theorem countP_isFailed (fault : Option Fault) :
    (fault.elim [] Fault.told).countP Event.isFailed =
      if fault.any Fault.isFailedAssertion then 1 else 0 := by
  cases fault with
  | none => rfl
  | some f => cases f <;> rfl

theorem countP_isException (fault : Option Fault) :
    (fault.elim [] Fault.told).countP Event.isException =
      if fault.any Fault.isBreakdown then 1 else 0 := by
  cases fault with
  | none => rfl
  | some f => cases f <;> rfl

/-- A fault is told by a failure or an exception, or not at all. -/
theorem mem_told {fault : Option Fault} {e : Event} (h : e ∈ fault.elim [] Fault.told) :
    e.isFailed = true ∨ e.isException = true := by
  cases fault with
  | none => cases h
  | some f =>
    cases f <;> first
      | (cases h; done)
      | (rw [List.mem_singleton.1 h]; first | exact .inl rfl | exact .inr rfl)

theorem countP_told_eq_zero {p : Event → Bool}
    (h : ∀ e : Event, e.isFailed = true ∨ e.isException = true → p e = false)
    (fault : Option Fault) : (fault.elim [] Fault.told).countP p = 0 := by
  rw [List.countP_eq_zero]
  intro e he
  rw [h e (mem_told he)]
  exact Bool.false_ne_true

/-- What the report is told of a run. -/
def runEvents (held : Nat) (fault : Option Fault) : List Event :=
  List.replicate held .passed ++ fault.elim [] Fault.told

theorem countP_runEvents (p : Event → Bool) (a : Nat) (fault : Option Fault) :
    (runEvents a fault).countP p =
      (if p .passed then a else 0) + (fault.elim [] Fault.told).countP p := by
  rw [runEvents, List.countP_append, List.countP_replicate]

/-- Something is told of a run exactly if an assertion held or a fault is a failure or an error. -/
theorem runEvents_ne_begun (a : Nat) (fault : Option Fault) :
    (∃ e ∈ runEvents a fault, e ≠ .begun) ↔
      0 < a ∨ fault.any Fault.isFailedAssertion ∨ fault.any Fault.isBreakdown := by
  have hpassed : (∃ e ∈ List.replicate a Event.passed, e ≠ .begun) ↔ 0 < a := by
    simp only [List.mem_replicate, Nat.pos_iff_ne_zero]
    constructor
    · rintro ⟨e, ⟨ha, _⟩, _⟩
      exact ha
    · intro ha
      exact ⟨.passed, ⟨ha, rfl⟩, Event.noConfusion⟩
  have hfault : (∃ e ∈ fault.elim [] Fault.told, e ≠ .begun) ↔
      fault.any Fault.isFailedAssertion ∨ fault.any Fault.isBreakdown := by
    cases fault with
    | none => simp
    | some f => cases f <;> simp [Fault.told, Fault.isFailedAssertion, Fault.isBreakdown]
  rw [← hpassed, ← hfault]
  simp only [runEvents, List.mem_append, or_and_right, exists_or]

theorem lineEvents_append_runEvents (l : Line) (x : Replay) (n : Nat) (fault : Option Fault) :
    lineEvents l (.ok () x) ++ runEvents n fault =
      runEvents ((if l.isAssertion then 1 else 0) + n) fault := by
  cases ha : l.isAssertion with
  | false => simp [lineEvents, ha]
  | true => simp [lineEvents, ha, runEvents, Nat.add_comm 1 n, List.replicate_succ]

/-- By induction on the lines: what the first line tells and what the rest tells make what is told. -/
theorem ending_tells (lines : List Line) {x : Replay} {r : Report} (hr : x.report = some r) :
    (stateAfter (ending lines x)).test = x.test ∧
      (stateAfter (ending lines x)).report = some (writeAll (Report.told x.test r.clock
        (runEvents (held lines x) (errorOf? (ending lines x)))) r) ∧
      ∀ f, errorOf? (ending lines x) = some f → f.endsRuns = true := by
  induction lines generalizing x r with
  | nil => exact ⟨rfl, hr, fun f hf => by cases hf⟩
  | cons l rest ih =>
    have hline := (executeLine_ends l x).tells hr
    rw [ending_cons, held]
    cases hl : executeLine l x with
    | ok u x' =>
      rw [hl] at hline
      have htest : x'.test = x.test := hline.1
      have hreport : x'.report =
          some (writeAll (Report.told x.test r.clock (lineEvents l (.ok u x'))) r) := hline.2.1
      obtain ⟨htest', hreport', hfault⟩ := ih hreport
      refine ⟨htest'.trans htest, ?_, hfault⟩
      rw [htest, ← Report.writeAll_told_append, lineEvents_append_runEvents] at hreport'
      exact hreport'
    | error f x' =>
      rw [hl] at hline
      exact hline

/-! ## Whole runs -/

theorem Ends.lastError {l : Line} {x : Replay} {out : EStateM.Result Fault Replay Unit}
    (h : Ends l x out) : (stateAfter out).lastError = x.lastError := by
  cases h <;> rfl

/-- No line writes the last error; the end of a run does. -/
theorem lastError_run (s : Script) (x : Replay) :
    (stateAfter (run s x)).lastError = (errorOf? (run s x)).map Fault.message := by
  have hkept : (stateAfter (ending s.lines (x.begin s))).lastError = none :=
    ending_stepwise (R := fun x y => y.lastError = x.lastError) ⟨fun _ => rfl, fun h h' => h'.trans h⟩
      (fun l x => (executeLine_ends l x).lastError) s.lines (x.begin s)
  rw [run_eq]
  cases hout : ending s.lines (x.begin s) with
  | ok u x' =>
    rw [hout] at hkept
    exact hkept
  | error f x' => rfl

theorem run_tells (s : Script) {x : Replay} {r : Report} (hr : x.report = some r) :
    (stateAfter (run s x)).report =
        some (writeAll (Report.told x.test r.clock
          (runEvents (held s.lines (x.begin s)) (errorOf? (run s x)))) r) ∧
      ∀ f, errorOf? (run s x) = some f → f.endsRuns = true := by
  have hbegin : (x.begin s).report = some r := hr
  rw [run_eq, errorOf?_finish, report_finish]
  exact (ending_tells s.lines hbegin).2

/-- **The fault of a run and the counts of its report agree.** Whatever the session, the options and
the report before: a run ends well or with one of four faults; the test shows as many more passed
assertions as held; one more failure or error is counted exactly if the fault is one; a test case is
added exactly if there was none and something was told; no other test case changes; and the last
error is the text of the fault. -/
theorem run_accounts (s : Script) (x : Replay) (r : Report) (hr : x.report = some r) :
    let fault := errorOf? (run s x)
    let a := held s.lines (x.begin s)
    ∃ r', (stateAfter (run s x)).report = some r' ∧
      (∀ f, fault = some f → f.endsRuns = true) ∧
      r'.assertsOf x.test = r.assertsOf x.test + a ∧
      r'.tally.failures = r.tally.failures + (if fault.any Fault.isFailedAssertion then 1 else 0) ∧
      r'.tally.errors = r.tally.errors + (if fault.any Fault.isBreakdown then 1 else 0) ∧
      r'.tally.ignored = r.tally.ignored ∧ r'.tally.inconclusive = r.tally.inconclusive ∧
      r'.tally.invalid = r.tally.invalid ∧
      r'.tally.total = r.tally.total +
        (if r.testCase? x.test = none ∧
            (0 < a ∨ fault.any Fault.isFailedAssertion ∨ fault.any Fault.isBreakdown)
          then 1 else 0) ∧
      (∀ d, ¬ x.test.SameAs d → r'.testCase? d = r.testCase? d) ∧
      (stateAfter (run s x)).lastError = fault.map Fault.message := by
  intro fault a
  obtain ⟨hreport, hfault⟩ := run_tells s hr
  let es := Report.told x.test r.clock (runEvents a fault)
  have htest : ∀ e ∈ es, e.test = x.test := by
    intro e he
    obtain ⟨_, _, rfl⟩ := List.mem_map.1 he
    rfl
  have hcount (p : Event → Bool) : es.countP (fun e => p e.event) =
      (if p .passed then a else 0) + (fault.elim [] Fault.told).countP p := by
    rw [Report.countP_told, countP_runEvents]
  obtain ⟨herrors, hfailures, hinconclusive, hignored, hinvalid⟩ := Report.tally_writeAll es r
  refine ⟨writeAll es r, hreport, hfault, ?_, ?_, ?_, ?_, ?_, ?_, ?_, ?_, lastError_run s x⟩
  · rw [Report.assertsOf_writeAll]
    have hown : es.countP (fun e => e.test.SameAs x.test ∧ e.event = .passed) =
        es.countP fun e => decide (e.event = .passed) := by
      apply List.countP_congr
      intro e he
      simp [htest e he, TestId.SameAs.refl]
    rw [hown, hcount fun e => decide (e = .passed), countP_told_eq_zero Event.ne_passed_of_fault]
    rfl
  · rw [hfailures, hcount, countP_isFailed]
    exact congrArg _ (Nat.zero_add _)
  · rw [herrors, hcount, countP_isException]
    exact congrArg _ (Nat.zero_add _)
  · rw [hignored, hcount, countP_told_eq_zero Event.not_isIgnored_of_fault]
    rfl
  · rw [hinconclusive, hcount, countP_told_eq_zero Event.not_isInconclusive_of_fault]
    rfl
  · rw [hinvalid, hcount fun e => decide (e = .invalid),
      countP_told_eq_zero Event.ne_invalid_of_fault]
    rfl
  · have htold : (∃ e ∈ es, e.event ≠ .begun) ↔
        0 < a ∨ fault.any Fault.isFailedAssertion ∨ fault.any Fault.isBreakdown := by
      rw [← runEvents_ne_begun]
      constructor
      · rintro ⟨_, he, hne⟩
        obtain ⟨event, hevent, rfl⟩ := List.mem_map.1 he
        exact ⟨event, hevent, hne⟩
      · rintro ⟨event, hevent, hne⟩
        exact ⟨⟨x.test, r.clock, event⟩, List.mem_map.2 ⟨event, hevent, rfl⟩, hne⟩
    rw [Report.total_writeAll htest]
    simp only [htold]
  · intro d hd
    exact Report.testCase?_writeAll_other (fun e he => htest e he ▸ hd) r

/-- Of two assertions about the title of an empty page the first holds, the second fails. -/
theorem run_accounts_titles :
    let s : Script := ⟨"Home", "", [⟨"assertTitle", "", ""⟩, ⟨"AssertTitle", "Home", ""⟩]⟩
    let r := Report.create "Shop" ⟨"2024-05-01", "12:00:00"⟩
      (.capture ⟨"linux", "x64", "/", "host"⟩ fun _ => none)
    let x : Replay := .ready ⟨"shop", "en", "home"⟩ .standard .empty (some r)
    x.report = some r ∧ ∃ r', (stateAfter (run s x)).report = some r' ∧ r'.assertsOf x.test = 1 ∧
      r'.tally.failures = 1 ∧ r'.tally.errors = 0 ∧ r'.tally.total = 1 := by
  intro s r x
  have hheld : held s.lines (x.begin s) = 1 := by decide +kernel
  have hfault : errorOf? (run s x) =
      some (.assertionFailed "expected title 'Home' but was ''" "AssertTitle, Home, ") := by
        decide +kernel
  obtain ⟨r', hreport, _, hasserts, hfailures, herrors, _, _, _, htotal, _⟩ :=
    run_accounts s x r rfl
  rw [hfault] at hfailures herrors htotal
  rw [hheld] at hasserts htotal
  exact ⟨rfl, r', hreport, hasserts, hfailures, herrors, htotal⟩

end Replay

end Selenese
