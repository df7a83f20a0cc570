import Selenese.Proofs.Report.Scope
import Selenese.Proofs.Report.Written
import Selenese.Proofs.Text.Decimal

/-!
# Selenese.Proofs.Report.ReadBack

A report can be read back from its markup.

* `Report.reading`: what a report holds, but for dates and how long anything took, and but for the
  reason of a test case that failed.
* `readReport` interprets elements. `readReport_reportElement`: from the element of a report it gets
  its reading.
* `read_toXml`: so reports with different readings are never written alike.
-/

namespace Selenese.Report

/-! ## What a report shows -/

/-- A test case as it is written: a failure hides the reason. -/
def TestCase.legible (c : TestCase) : TestCase :=
  { c.untimed with reason := if c.failure.isSome then none else c.reason }

namespace Scope

mutual

/-- Changes all times, and all test cases, of a scope and of those below. -/
def map (onTime : Option Nat → Option Nat) (onCase : TestCase → TestCase) : Scope → Scope
  | ⟨kind, name, flags, time, scopes, cases⟩ =>
    ⟨kind, name, flags, onTime time, mapAll onTime onCase scopes, cases.map onCase⟩

def mapAll (onTime : Option Nat → Option Nat) (onCase : TestCase → TestCase) :
    List Scope → List Scope
  | [] => []
  | s :: r => map onTime onCase s :: mapAll onTime onCase r

end

/-- A scope, but for how long anything took. -/
def untimed : Scope → Scope := map (Option.map fun _ => 0) TestCase.untimed

def legible : Scope → Scope := map (Option.map fun _ => 0) TestCase.legible

end Scope

structure Reading where
  name : String
  environment : Environment
  tally : Tally
  notRun : Nat
  root : Option Scope

/-- All that a report shows, but for dates and how long anything took. -/
def reading (r : Report) : Reading where
  name := r.name
  environment := r.environment
  tally := r.tally
  notRun := r.tally.ignored + r.tally.invalid
  root := r.root.map Scope.legible

/-- A report without dates, and without how long anything took. -/
def undated (r : Report) : Report :=
  { r with created := ⟨"", ""⟩, root := r.root.map Scope.untimed }

mutual

theorem Scope.legible_untimed : ∀ s : Scope, s.untimed.legible = s.legible
  | ⟨kind, name, flags, time, scopes, cases⟩ => by
    have hscopes := Scope.legibleAll_untimed scopes
    have hcases : (cases.map TestCase.untimed).map TestCase.legible =
        cases.map TestCase.legible := by
      rw [List.map_map]
      refine List.map_congr_left fun c _ => ?_
      cases h : c.time <;> simp [TestCase.legible, TestCase.untimed, h]
    cases time <;>
      simp [Scope.untimed, Scope.legible, Scope.map, hscopes, hcases]

theorem Scope.legibleAll_untimed : ∀ l : List Scope,
    Scope.mapAll (Option.map fun _ => 0) TestCase.legible
        (Scope.mapAll (Option.map fun _ => 0) TestCase.untimed l) =
      Scope.mapAll (Option.map fun _ => 0) TestCase.legible l
  | [] => rfl
  | s :: r => by
    have hs := Scope.legible_untimed s
    rw [Scope.untimed, Scope.legible] at hs
    rw [Scope.mapAll, Scope.mapAll, Scope.mapAll, hs, Scope.legibleAll_untimed r]

end

theorem reading_undated (r : Report) : r.undated.reading = r.reading := by
  cases h : r.root with
  | none => simp [reading, undated, h]
  | some s => simp [reading, undated, h, Scope.legible_untimed]

namespace Xml

/-! ## Interpreting elements -/

namespace Element

def get? (e : Element) (key : String) : Option String := e.attributes.lookup key

def child? (e : Element) (name : String) : Option Element := e.children.find? (·.name == name)

end Element

/-- Reads what is there. -/
def optional {α β : Type} (read : α → Option β) : Option α → Option (Option β)
  | none => some none
  | some a => (read a).map some

theorem optional_map {α β : Type} {read : α → Option β} {write : β → α}
    (h : ∀ b, read (write b) = some b) (o : Option β) : optional read (o.map write) = some o := by
  cases o with
  | none => rfl
  | some b => rw [Option.map_some, optional, h, Option.map_some]

def readBool (s : String) : Option Bool := [true, false].find? fun b => boolText b == s

def readVerdict (s : String) : Option Verdict :=
  [Verdict.success, .failed, .inconclusive, .ignored, .invalid].find? fun v => v.name == s

def readKind (s : String) : Option ScopeKind :=
  [ScopeKind.segment, .fixture].find? fun k => k.name == s

def readNumber (s : String) : Option Nat :=
  if s ≠ "" ∧ s.toList.all Char.isDigit then some (Nat.ofDigitChars 10 s.toList 0) else none

theorem readBool_boolText (b : Bool) : readBool (boolText b) = some b := by
  cases b <;> decide

theorem readVerdict_name (v : Verdict) : readVerdict v.name = some v := by
  cases v <;> decide

theorem readKind_name (k : ScopeKind) : readKind k.name = some k := by
  cases k <;> decide

theorem readNumber_toString (n : Nat) : readNumber (toString n) = some n := by
  obtain ⟨hne, hall, hvalue⟩ := Text.digits_toString n
  have hsome : toString n ≠ "" := fun h => hne (congrArg String.toList h)
  rw [readNumber, if_pos ⟨hsome, List.all_eq_true.2 hall⟩, hvalue]

def Element.number? (e : Element) (key : String) : Option Nat := (e.get? key).bind readNumber

theorem number?_of_get? {e : Element} {key : String} {n : Nat}
    (h : e.get? key = some (toString n)) : e.number? key = some n := by
  rw [Element.number?, h, Option.bind_some, readNumber_toString]

def readFlags (e : Element) : Option Flags := do
  let executed ← optional readBool (e.get? "executed")
  let verdict ← optional readVerdict (e.get? "result")
  let success ← optional readBool (e.get? "success")
  return ⟨executed, verdict, success⟩

/-- Whether there is a time; how long it is, is not read. -/
def readTime (e : Element) : Option Nat := (e.get? "time").map fun _ => 0

def readProperty (e : Element) : Option (String × String) := do
  return (← e.get? "name", ← e.get? "value")

def readFailure (e : Element) : Option FailureDetail := do
  return ⟨(← e.child? "message").text, (← e.child? "stack-trace").text⟩

def readReason (e : Element) : Option String := (e.child? "message").map Element.text

def readCase (e : Element) : Option TestCase := do
  let name ← e.get? "name"
  let flags ← readFlags e
  let asserts ← e.number? "asserts"
  let failure ← optional readFailure (e.child? "failure")
  let reason ← optional readReason (e.child? "reason")
  let properties ← ((e.child? "properties").elim [] Element.children).mapM readProperty
  return ⟨name, flags, readTime e, asserts, failure, reason, properties⟩

mutual

/-- A scope holds its members in an element of results. -/
def readScope : Element → Option Scope
  | ⟨name, attributes, text, [⟨_, _, _, members⟩]⟩ => do
    let e : Element := ⟨name, attributes, text, []⟩
    let kind ← (e.get? "type").bind readKind
    let scopeName ← e.get? "name"
    let flags ← readFlags e
    let (scopes, cases) ← readMembers members
    return ⟨kind, scopeName, flags, readTime e, scopes, cases⟩
  | _ => none

def readMembers : List Element → Option (List Scope × List TestCase)
  | [] => some ([], [])
  | e :: rest => do
    let (scopes, cases) ← readMembers rest
    if e.name = "test-suite" then
      let s ← readScope e
      return (s :: scopes, cases)
    else
      let c ← readCase e
      return (scopes, c :: cases)

end

def readEnvironment (e culture : Element) : Option Environment := do
  return ⟨← e.get? "nunit-version", ← e.get? "clr-version", ← e.get? "os-version",
    ← e.get? "platform", ← e.get? "cwd", ← e.get? "machine-name", ← e.get? "user",
    ← e.get? "user-domain", ← culture.get? "current-culture"⟩

def readTally (e : Element) : Option Tally := do
  return ⟨← e.number? "total", ← e.number? "errors", ← e.number? "failures",
    ← e.number? "inconclusive", ← e.number? "ignored", ← e.number? "invalid"⟩

def readReport (e : Element) : Option Reading := do
  let name ← e.get? "name"
  let environment ← readEnvironment (← e.child? "environment") (← e.child? "culture-info")
  let tally ← readTally e
  let notRun ← e.number? "not-run"
  let root ← optional readScope (e.child? "test-suite")
  return ⟨name, environment, tally, notRun, root⟩

def read (document : String) : Option Reading :=
  match parse document with
  | some [e] => readReport e
  | _ => none

/-! ## What is read of elements -/

/-- Every flag and the time stand under keys of their own. -/
theorem lookup_pairs (f : Flags) (time : Option Nat) :
    (flagPairs f ++ timePairs time).lookup "executed" = f.executed.map boolText ∧
    (flagPairs f ++ timePairs time).lookup "result" = f.verdict.map Verdict.name ∧
    (flagPairs f ++ timePairs time).lookup "success" = f.success.map boolText ∧
    (flagPairs f ++ timePairs time).lookup "time" = time.map seconds := by
  obtain ⟨executed, verdict, success⟩ := f
  cases executed <;> cases verdict <;> cases success <;> cases time <;> exact ⟨rfl, rfl, rfl, rfl⟩

section

variable {e : Element} {front back : List (String × String)} {f : Flags} {time : Option Nat}
  (he : e.attributes = front ++ (flagPairs f ++ timePairs time ++ back))

include he

theorem get?_pairs {key : String} (hfront : front.lookup key = none)
    (hback : back.lookup key = none) :
    e.get? key = (flagPairs f ++ timePairs time).lookup key := by
  rw [Element.get?, he, List.lookup_append, hfront, Option.none_or, List.lookup_append, hback,
    Option.or_none]

theorem readFlags_pairs
    (hfront : ∀ key ∈ ["executed", "result", "success"], front.lookup key = none)
    (hback : ∀ key ∈ ["executed", "result", "success"], back.lookup key = none) :
    readFlags e = some f := by
  have hget (key : String) (h : key ∈ ["executed", "result", "success"]) :=
    get?_pairs he (hfront key h) (hback key h)
  obtain ⟨hexecuted, hverdict, hsuccess, _⟩ := lookup_pairs f time
  rw [readFlags, hget "executed" (by decide), hget "result" (by decide),
    hget "success" (by decide), hexecuted, hverdict, hsuccess, optional_map readBool_boolText,
    optional_map readVerdict_name, optional_map readBool_boolText]
  rfl

theorem readTime_pairs (hfront : front.lookup "time" = none) (hback : back.lookup "time" = none) :
    readTime e = time.map fun _ => 0 := by
  obtain ⟨_, _, _, htime⟩ := lookup_pairs f time
  rw [readTime, get?_pairs he hfront hback, htime, Option.map_map]
  rfl

end

theorem child?_properties (c : TestCase) :
    ((caseElement c).child? "properties").elim [] Element.children =
      c.properties.map propertyElement := by
  rw [Element.child?, caseElement, outcomeElements]
  cases c.properties <;> cases c.failure <;> cases c.reason <;> rfl

theorem child?_failure (c : TestCase) :
    (caseElement c).child? "failure" = c.failure.map failureElement := by
  rw [Element.child?, caseElement, outcomeElements]
  cases c.properties <;> cases c.failure <;> cases c.reason <;> rfl

theorem child?_reason (c : TestCase) : (caseElement c).child? "reason" =
    (if c.failure.isSome then none else c.reason).map reasonElement := by
  rw [Element.child?, caseElement, outcomeElements]
  cases c.properties <;> cases c.failure <;> cases c.reason <;> rfl

theorem readFailure_failureElement (f : FailureDetail) :
    readFailure (failureElement f) = some f := rfl

theorem readReason_reasonElement (reason : String) :
    readReason (reasonElement reason) = some reason := rfl

theorem readProperty_propertyElement (p : String × String) :
    readProperty (propertyElement p) = some p := rfl

theorem readProperties_map (ps : List (String × String)) :
    (ps.map propertyElement).mapM readProperty = some ps := by
  induction ps with
  | nil => rfl
  | cons p r ih =>
    rw [List.map_cons, List.mapM_cons, readProperty_propertyElement, ih]
    rfl

theorem readCase_caseElement (c : TestCase) : readCase (caseElement c) = some c.legible := by
  have hattributes : (caseElement c).attributes = [("name", c.name)] ++
      (flagPairs c.flags ++ timePairs c.time ++ [("asserts", toString c.asserts)]) := rfl
  have hname : (caseElement c).get? "name" = some c.name := rfl
  have hflags : readFlags (caseElement c) = some c.flags :=
    readFlags_pairs hattributes (by simp [List.lookup_cons]) (by simp [List.lookup_cons])
  have htime : readTime (caseElement c) = c.time.map fun _ => 0 :=
    readTime_pairs hattributes rfl rfl
  have hasserts : (caseElement c).get? "asserts" = some (toString c.asserts) := by
    rw [Element.get?, caseElement]
    rcases c.flags with ⟨executed, verdict, success⟩
    cases executed <;> cases verdict <;> cases success <;> cases c.time <;> rfl
  rw [readCase, hname, hflags, htime, number?_of_get? hasserts, child?_failure, child?_reason,
    child?_properties, optional_map readFailure_failureElement,
    optional_map readReason_reasonElement, readProperties_map]
  rfl

/-! ### Scopes -/

theorem readMembers_cases (cases : List TestCase) :
    readMembers (cases.map caseElement) = some ([], cases.map TestCase.legible) := by
  induction cases with
  | nil => rfl
  | cons c r ih =>
    have hname : ¬ (caseElement c).name = "test-suite" := (by decide : ¬ "test-case" = "test-suite")
    rw [List.map_cons, readMembers, ih, Option.bind_eq_bind, Option.bind_some]
    simp only [if_neg hname, readCase_caseElement]
    rfl

mutual

theorem readScope_scopeElement : ∀ s : Scope, readScope (scopeElement s) = some s.legible
  | ⟨kind, name, flags, time, inner, cases⟩ => by
    let e : Element := ⟨"test-suite",
      ("type", kind.name) :: ("name", name) :: (flagPairs flags ++ timePairs time), "", []⟩
    have hattributes : e.attributes = [("type", kind.name), ("name", name)] ++
        (flagPairs flags ++ timePairs time ++ []) := by rw [List.append_nil]; rfl
    have hkind : e.get? "type" = some kind.name := rfl
    have hname : e.get? "name" = some name := rfl
    have hflags : readFlags e = some flags :=
      readFlags_pairs hattributes (by simp [List.lookup_cons]) (by simp)
    have htime : readTime e = time.map fun _ => 0 := readTime_pairs hattributes rfl rfl
    -- the members of a scope are smaller trees
    have hmembers := readMembers_elements inner cases
    rw [scopeElement, readScope, hkind, hname, hflags, htime, hmembers, Option.bind_some,
      readKind_name]
    rfl

theorem readMembers_elements : ∀ (l : List Scope) (cases : List TestCase),
    readMembers (scopeElements l ++ cases.map caseElement) =
      some (Scope.mapAll (Option.map fun _ => 0) TestCase.legible l, cases.map TestCase.legible)
  | [], cases => readMembers_cases cases
  | s :: r, cases => by
    have hname : (scopeElement s).name = "test-suite" := by
      cases s
      rfl
    rw [scopeElements, List.cons_append, readMembers, readMembers_elements r cases,
      Option.bind_eq_bind, Option.bind_some]
    simp only [if_pos hname, readScope_scopeElement s]
    rfl

end

/-! ### Reports -/

theorem readReport_reportElement (r : Report) : readReport (reportElement r) = some r.reading := by
  have hname : (reportElement r).get? "name" = some r.name := rfl
  have henvironment : (reportElement r).child? "environment" =
      some ⟨"environment", environmentPairs r.environment, "", []⟩ := rfl
  have hculture : (reportElement r).child? "culture-info" =
      some ⟨"culture-info", culturePairs r.environment, "", []⟩ := rfl
  have htally : readTally (reportElement r) = some r.tally := by
    rw [readTally, number?_of_get? (n := r.tally.total) rfl,
      number?_of_get? (n := r.tally.errors) rfl, number?_of_get? (n := r.tally.failures) rfl,
      number?_of_get? (n := r.tally.inconclusive) rfl, number?_of_get? (n := r.tally.ignored) rfl,
      number?_of_get? (n := r.tally.invalid) rfl]
    rfl
  have hnotRun : (reportElement r).number? "not-run" = some r.tally.notRun := number?_of_get? rfl
  have hroot : (reportElement r).child? "test-suite" = r.root.map scopeElement := by
    rw [Element.child?, reportElement]
    cases r.root with
    | none => rfl
    | some s =>
      cases s
      rfl
  have hscope : optional readScope (r.root.map scopeElement) = some (r.root.map Scope.legible) := by
    cases r.root with
    | none => rfl
    | some s => rw [Option.map_some, optional, readScope_scopeElement]; rfl
  rw [readReport, hname, henvironment, hculture, htally, hnotRun, hroot, hscope]
  rfl

end Xml

/-- **A report can be read back.** Whatever the texts in it, reading its markup gives its name and
environment, its counts with the number of tests that were not run, and the tree of scopes and test
cases with all that is recorded of them, but for how long they took and for the reason of a test
case that failed. So reports that differ in any of this are written differently, also when their
dates and times are left out. -/
theorem read_toXml (r : Report) :
    Xml.read r.toXml = some {
      name := r.name
      environment := r.environment
      tally := r.tally
      notRun := r.tally.ignored + r.tally.invalid
      root := r.root.map Scope.legible } ∧
    ∀ r' : Report, r'.reading ≠ r.reading →
      r'.toXml ≠ r.toXml ∧ r'.undated.toXml ≠ r.undated.toXml := by
  have hread (r : Report) : Xml.read r.toXml = some r.reading := by
    rw [Xml.read, Xml.parse_toXml]
    exact Xml.readReport_reportElement r
  refine ⟨hread r, ?_⟩
  intro r' hne
  refine ⟨fun h => hne ?_, fun h => hne ?_⟩
  · have hboth := hread r'
    rw [h, hread r] at hboth
    exact (Option.some.inj hboth).symm
  · have hboth := hread r'.undated
    rw [h, hread r.undated, reading_undated, reading_undated] at hboth
    exact (Option.some.inj hboth).symm

/-- A quote and its escape are written differently. -/
theorem read_toXml_quote :
    let stamp : Stamp := ⟨"2024-05-01", "12:00:00"⟩
    let environment := Environment.capture ⟨"linux", "x64", "/", "host"⟩ fun _ => none
    (create "\"Shop\"" stamp environment).undated.toXml ≠
      (create "&quot;Shop&quot;" stamp environment).undated.toXml := by
  intro stamp environment
  have hreading : (create "\"Shop\"" stamp environment).reading ≠
      (create "&quot;Shop&quot;" stamp environment).reading := by
    intro h
    exact absurd (congrArg Reading.name h) (by decide : ¬ "\"Shop\"" = "&quot;Shop&quot;")
  exact ((read_toXml (create "&quot;Shop&quot;" stamp environment)).2 _ hreading).2

end Selenese.Report
