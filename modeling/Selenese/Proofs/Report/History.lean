import Selenese.Proofs.Report.Record

/-!
# Selenese.Proofs.Report.History

A report as the sum of what was told to it.

* An `Entry` is an event of a test, told at some time of the clock; `writeAll` writes entries into a
  report.
* `entriesOf d es` are the entries of the test `d`, under any of its names.
* `Holds own c`: the test case `c` holds what the entries `own` tell, each field by a rule of its
  own.
* `testCase?_writeAll`: a report that was empty at first has a test case of `d` exactly when an
  entry of `d` is more than a start, and it holds what the entries of `d` tell. Entries of other
  tests leave it as it is.

How much time a test case shows depends on timers, which tests with equal paths share. What `Holds`
says of the time is whether there is one.
-/

namespace Selenese.Report

/-- What can be told of a test. -/
inductive Event where
  | begun
  | passed
  | failed (message location : String)
  | exception (message : String) (causes : List String)
  | ignored (reason : String)
  | inconclusive
  /-- Recorded as inconclusive. -/
  | skipped
  | invalid
  | property (name value : String)
deriving DecidableEq, Repr

structure Entry where
  test : TestId
  /-- The time of the clock, in microseconds, when the event is told. -/
  clock : Nat
  event : Event
deriving DecidableEq, Repr

namespace Event

def write (d : TestId) (r : Report) : Event → Report
  | begun => r.begin d
  | passed => r.passed d
  | failed message location => r.failed d message location
  | exception message causes => r.exception d message causes
  | ignored reason => r.ignored d reason
  | inconclusive => r.inconclusive d
  | skipped => r.inconclusive d
  | invalid => r.invalid d
  | property name value => r.addProperty d name value

/-! ## What an event tells -/

/-- The flags that an event of status sets; the others have none. -/
def flags? : Event → Option Flags
  | passed => some ⟨some true, some .success, some true⟩
  | failed .. => some ⟨some true, some .failed, some false⟩
  | exception .. => some ⟨some true, some .failed, none⟩
  | ignored _ => some ⟨some false, some .ignored, none⟩
  | inconclusive | skipped => some ⟨some false, some .inconclusive, none⟩
  | invalid => some ⟨some false, some .invalid, some false⟩
  | begun | property .. => none

def failure? : Event → Option FailureDetail
  | failed message location => some ⟨message, location⟩
  | exception message causes => some ⟨message, traceOf message causes⟩
  | _ => none

def reason? : Event → Option String
  | ignored reason => some reason
  | _ => none

def property? : Event → Option (String × String)
  | property name value => some (name, value)
  | _ => none

/-- A test case after one more event. -/
def amend (e : Event) (elapsed : Nat) (c : TestCase) : TestCase where
  name := c.name
  flags := e.flags?.elim c.flags c.flags.merge
  time := if e.flags?.isSome then some elapsed else c.time
  asserts := c.asserts + if e = passed then 1 else 0
  failure := e.failure?.or c.failure
  reason := e.reason?.or c.reason
  properties := c.properties ++ e.property?.toList

/-- Every event but a start creates or amends the test case of its test, and no other. -/
theorem testCase?_write (e : Event) (d d' : TestId) (r : Report) :
    (e.write d r).testCase? d' =
      if d.SameAs d' ∧ e ≠ begun then
        some (e.amend (r.elapsed d.fullPath) ((r.testCase? d').getD (.named d.fullPath)))
      else r.testCase? d' := by
  cases e with
  | begun =>
    rw [if_neg fun h => h.2 rfl]
    rfl
  | property name value =>
    simp [write, testCase?_addProperty, amend, TestCase.addProperty, flags?, failure?,
      reason?, property?]
  | _ => simp [write, Report.passed, Report.failed, Report.exception, Report.ignored,
      Report.inconclusive, Report.invalid, testCase?_record, amend, TestCase.touch, flags?, failure?,
      reason?, property?]

end Event

def Entry.write (e : Entry) (r : Report) : Report :=
  e.event.write e.test { r with clock := e.clock }

def writeAll (es : List Entry) (r : Report) : Report := es.foldl (fun r e => e.write r) r

theorem Entry.testCase?_write (e : Entry) (d : TestId) (r : Report) :
    (e.write r).testCase? d =
      if e.test.SameAs d ∧ e.event ≠ .begun then
        some (e.event.amend (elapsed { r with clock := e.clock } e.test.fullPath)
          ((r.testCase? d).getD (.named e.test.fullPath)))
      else r.testCase? d :=
  e.event.testCase?_write e.test d _

/-- The entries of a test, under any of its names. -/
def entriesOf (d : TestId) (es : List Entry) : List Entry := es.filter fun e => e.test.SameAs d

/-! ## What a test case holds -/

/-- A test case holds what entries tell: the passed assertions by number, the last failure and the
last reason, all properties in order, and the flags as they were set one after another. -/
structure Holds (own : List Entry) (c : TestCase) : Prop where
  flags : c.flags = (own.filterMap (·.event.flags?)).foldl Flags.merge .unset
  time : c.time.isSome = own.any (·.event.flags?.isSome)
  asserts : c.asserts = own.countP fun e => e.event = .passed
  failure : c.failure = (own.filterMap (·.event.failure?)).getLast?
  reason : c.reason = (own.filterMap (·.event.reason?)).getLast?
  properties : c.properties = own.filterMap (·.event.property?)

namespace Holds

theorem filterMap_append_singleton {β : Type} (f : Event → Option β) (own : List Entry)
    (e : Entry) :
    (own ++ [e]).filterMap (f ·.event) = own.filterMap (f ·.event) ++ (f e.event).toList := by
  cases h : f e.event <;> simp [h]

theorem getLast?_append_toList {β : Type} (l : List β) (o : Option β) :
    (l ++ o.toList).getLast? = o.or l.getLast? := by
  cases o <;> simp

theorem amend {own : List Entry} {c : TestCase} (h : Holds own c) (e : Entry) (elapsed : Nat) :
    Holds (own ++ [e]) (e.event.amend elapsed c) where
  flags := by
    rw [filterMap_append_singleton, List.foldl_append, ← h.flags]
    cases hf : e.event.flags? <;> simp [Event.amend, hf]
  time := by
    rw [List.any_append, ← h.time]
    cases hf : e.event.flags? <;> simp [Event.amend, hf]
  asserts := by
    rw [List.countP_append, ← h.asserts]
    simp [Event.amend, List.countP_cons]
  failure := by
    rw [filterMap_append_singleton, getLast?_append_toList, ← h.failure]; rfl
  reason := by
    rw [filterMap_append_singleton, getLast?_append_toList, ← h.reason]; rfl
  properties := by
    rw [filterMap_append_singleton, ← h.properties]; rfl

/-- A new test case holds what starts tell: nothing. -/
theorem named {own : List Entry} (h : ∀ e ∈ own, e.event = .begun) (name : String) :
    Holds own (.named name) := by
  induction own with
  | nil => exact ⟨rfl, rfl, rfl, rfl, rfl, rfl⟩
  | cons e r ih =>
    have he : e.event = .begun := h e List.mem_cons_self
    obtain ⟨hf, ht, ha, hd, hr, hp⟩ := ih fun e' h' => h e' (List.mem_cons_of_mem _ h')
    constructor <;>
      simp_all [Event.flags?, Event.failure?, Event.reason?, Event.property?]

end Holds

/-- The first entry that is more than a start. -/
def opening? (own : List Entry) : Option Entry := own.find? fun e => e.event ≠ .begun

theorem opening?_eq_none {own : List Entry} :
    opening? own = none ↔ ∀ e ∈ own, e.event = .begun := by
  simp [opening?]

theorem opening?_append_singleton (own : List Entry) (e : Entry) :
    opening? (own ++ [e]) = (opening? own).or (if e.event = .begun then none else some e) := by
  by_cases he : e.event = .begun <;> simp [opening?, List.find?_append, he]

/-- What a report answers for a test whose entries are `own`. -/
def Answers (own : List Entry) : Option TestCase → Prop
  | none => opening? own = none
  | some c => (opening? own).map (·.test.fullPath) = some c.name ∧ Holds own c

theorem Answers.properties {own : List Entry} {o : Option TestCase} (h : Answers own o) :
    o.elim [] TestCase.properties = own.filterMap (·.event.property?) := by
  cases o with
  | some c => exact h.2.properties
  | none =>
    refine (List.filterMap_eq_nil_iff.2 fun e he => ?_).symm
    rw [opening?_eq_none.1 h e he]
    rfl

theorem Answers.write {own : List Entry} {o : Option TestCase} (h : Answers own o) (e : Entry)
    (elapsed : Nat) :
    Answers (own ++ [e])
      (if e.event ≠ .begun then
        some (e.event.amend elapsed (o.getD (.named e.test.fullPath)))
      else o) := by
  by_cases he : e.event = .begun
  · have hopen : opening? (own ++ [e]) = opening? own := by simp [opening?_append_singleton, he]
    rw [if_neg (fun hne => hne he)]
    cases o with
    | none => exact hopen.trans h
    | some c =>
      have hsame : e.event.amend elapsed c = c := by
        simp [he, Event.amend, Event.flags?, Event.failure?, Event.reason?, Event.property?]
      refine ⟨?_, hsame ▸ h.2.amend e elapsed⟩
      rw [hopen, h.1]
  · rw [if_pos he]
    cases o with
    | none =>
      have hnone : opening? own = none := h
      refine ⟨?_, (Holds.named (opening?_eq_none.1 hnone) _).amend e elapsed⟩
      rw [opening?_append_singleton, hnone, if_neg he]; rfl
    | some c =>
      refine ⟨?_, h.2.amend e elapsed⟩
      obtain ⟨first, hfirst, hname⟩ := Option.map_eq_some_iff.1 h.1
      rw [opening?_append_singleton, hfirst, Option.some_or, Option.map_some, hname]; rfl

/-- By induction on the entries, with those already told in `own`. -/
theorem answers_writeAll (d : TestId) (es : List Entry) :
    ∀ (own : List Entry) (r : Report), Answers own (r.testCase? d) →
      Answers (own ++ entriesOf d es) ((writeAll es r).testCase? d) := by
  induction es with
  | nil =>
    intro own r h
    simpa [entriesOf, writeAll] using h
  | cons e rest ih =>
    intro own r h
    have hstep := e.testCase?_write d r
    by_cases hs : e.test.SameAs d
    · have hown : own ++ entriesOf d (e :: rest) = own ++ [e] ++ entriesOf d rest := by
        simp [entriesOf, hs]
      simp only [hs, true_and] at hstep
      rw [hown]
      refine ih (own ++ [e]) (e.write r) ?_
      rw [hstep]
      exact h.write e _
    · have hown : entriesOf d (e :: rest) = entriesOf d rest := by simp [entriesOf, hs]
      rw [if_neg (fun h => hs h.1)] at hstep
      rw [hown]
      exact ih own (e.write r) (hstep ▸ h)

/-- **A report is a map from tests to test cases.** A test has a test case exactly when an entry of
the test, under any of its names, is more than a start. The test case holds what the entries of the
test tell, in order, under the name of the first. An entry of another test leaves it as it is. -/
theorem testCase?_writeAll (name : String) (created : Stamp) (environment : Environment)
    (es : List Entry) (d : TestId) :
    let r := writeAll es (create name created environment)
    let own := entriesOf d es
    (r.testCase? d = none ↔ ∀ e ∈ own, e.event = .begun) ∧
      (∀ c, r.testCase? d = some c →
        (opening? own).map (·.test.fullPath) = some c.name ∧ Holds own c) ∧
      ∀ e : Entry, ¬ e.test.SameAs d → (e.write r).testCase? d = r.testCase? d := by
  intro r own
  have h : Answers own (r.testCase? d) :=
    answers_writeAll d es [] (create name created environment) rfl
  refine ⟨?_, ?_, ?_⟩
  · rw [← opening?_eq_none]
    cases hc : r.testCase? d with
    | none =>
      rw [hc] at h
      exact ⟨fun _ => h, fun _ => rfl⟩
    | some c =>
      rw [hc] at h
      constructor
      · intro hn; cases hn
      · intro hn
        have hname := h.1
        rw [hn] at hname
        cases hname
  · intro c hc
    rw [hc] at h
    exact h
  · intro e hs
    rw [e.testCase?_write, if_neg (fun h => hs h.1)]

end Selenese.Report
