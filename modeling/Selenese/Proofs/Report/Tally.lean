import Selenese.Proofs.Report.History

/-!
# Selenese.Proofs.Report.Tally

What a report counts.

* `tally_writeAll`: failures, errors and the other marks are counted entry by entry, whatever the
  test.
* `total_writeAll`: entries of one test add a test case only if there was none and one of them is
  more than a start.
* `assertsOf_writeAll`: the passed assertions of a test are counted by the entries of that test.
* `told d clock events` are entries of one test at one time; `writeAll_told_append` tells them in
  two parts. `toldAll clock tests` are those of tests one after the other.
-/

namespace Selenese.Report

namespace Event

def isFailed : Event → Bool
  | failed .. => true
  | _ => false

def isException : Event → Bool
  | exception .. => true
  | _ => false

def isIgnored : Event → Bool
  | ignored _ => true
  | _ => false

def isInconclusive : Event → Bool
  | inconclusive | skipped => true
  | _ => false

theorem tally_write (e : Event) (d : TestId) (r : Report) :
    (e.write d r).tally = {
      total := r.tally.total + if e ≠ begun ∧ r.testCase? d = none then 1 else 0
      errors := r.tally.errors + if e.isException then 1 else 0
      failures := r.tally.failures + if e.isFailed then 1 else 0
      inconclusive := r.tally.inconclusive + if e.isInconclusive then 1 else 0
      ignored := r.tally.ignored + if e.isIgnored then 1 else 0
      invalid := r.tally.invalid + if e = invalid then 1 else 0 } := by
  cases hc : r.testCase? d <;> cases e <;>
    simp [write, Report.begin, Report.passed, Report.failed, Report.exception, Report.ignored,
      Report.inconclusive, Report.invalid, tally_record, tally_addProperty, countCase, hc, isFailed,
      isException, isIgnored, isInconclusive]

/-! A failure and an error are nothing else. -/

theorem ne_passed_of_fault (e : Event) (h : e.isFailed = true ∨ e.isException = true) :
    decide (e = passed) = false := by
  cases e <;> simp [isFailed, isException] at h ⊢

theorem ne_invalid_of_fault (e : Event) (h : e.isFailed = true ∨ e.isException = true) :
    decide (e = invalid) = false := by
  cases e <;> simp [isFailed, isException] at h ⊢

theorem not_isIgnored_of_fault (e : Event) (h : e.isFailed = true ∨ e.isException = true) :
    e.isIgnored = false := by
  cases e <;> simp [isFailed, isException, isIgnored] at h ⊢

theorem not_isInconclusive_of_fault (e : Event) (h : e.isFailed = true ∨ e.isException = true) :
    e.isInconclusive = false := by
  cases e <;> simp [isFailed, isException, isInconclusive] at h ⊢

end Event

theorem writeAll_cons (e : Entry) (es : List Entry) (r : Report) :
    writeAll (e :: es) r = writeAll es (e.write r) := rfl

theorem writeAll_append (es es' : List Entry) (r : Report) :
    writeAll (es ++ es') r = writeAll es' (writeAll es r) :=
  List.foldl_append

/-- A number that every entry raises by one or leaves alone counts entries. -/
theorem count_writeAll (number : Report → Nat) {counted : Entry → Bool}
    (h : ∀ e r, number (e.write r) = number r + if counted e then 1 else 0) (es : List Entry)
    (r : Report) :
    number (writeAll es r) = number r + es.countP counted := by
  induction es generalizing r with
  | nil => rfl
  | cons e rest ih =>
    rw [writeAll_cons, ih, h, List.countP_cons]
    omega

theorem tally_writeAll (es : List Entry) (r : Report) :
    (writeAll es r).tally.errors = r.tally.errors + es.countP (·.event.isException) ∧
      (writeAll es r).tally.failures = r.tally.failures + es.countP (·.event.isFailed) ∧
      (writeAll es r).tally.inconclusive =
        r.tally.inconclusive + es.countP (·.event.isInconclusive) ∧
      (writeAll es r).tally.ignored = r.tally.ignored + es.countP (·.event.isIgnored) ∧
      (writeAll es r).tally.invalid =
        r.tally.invalid + es.countP (fun e => e.event = .invalid) := by
  have htally (e : Entry) (r : Report) := e.event.tally_write e.test { r with clock := e.clock }
  refine ⟨?_, ?_, ?_, ?_, ?_⟩
  · exact count_writeAll (·.tally.errors) (fun e r => congrArg Tally.errors (htally e r)) es r
  · exact count_writeAll (·.tally.failures) (fun e r => congrArg Tally.failures (htally e r)) es r
  · refine count_writeAll (·.tally.inconclusive) (fun e r => ?_) es r
    exact congrArg Tally.inconclusive (htally e r)
  · exact count_writeAll (·.tally.ignored) (fun e r => congrArg Tally.ignored (htally e r)) es r
  · refine count_writeAll (·.tally.invalid) (fun e r => ?_) es r
    rw [Entry.write, htally]
    simp

theorem testCase?_writeAll_other {d : TestId} {es : List Entry} (h : ∀ e ∈ es, ¬ e.test.SameAs d)
    (r : Report) :
    (writeAll es r).testCase? d = r.testCase? d := by
  induction es generalizing r with
  | nil => rfl
  | cons e rest ih =>
    have he : ¬ e.test.SameAs d := h e List.mem_cons_self
    rw [writeAll_cons, ih fun e' h' => h e' (List.mem_cons_of_mem _ h'), e.testCase?_write,
      if_neg fun h' => he h'.1]

theorem total_writeAll {d : TestId} {es : List Entry} (h : ∀ e ∈ es, e.test = d) (r : Report) :
    (writeAll es r).tally.total =
      r.tally.total + if r.testCase? d = none ∧ ∃ e ∈ es, e.event ≠ .begun then 1 else 0 := by
  induction es generalizing r with
  | nil => simp [writeAll]
  | cons e rest ih =>
    have hd : e.test = d := h e List.mem_cons_self
    have hwrite := e.testCase?_write d r
    have htotal : (e.write r).tally.total =
        r.tally.total + if e.event ≠ .begun ∧ r.testCase? d = none then 1 else 0 := by
      rw [Entry.write, e.event.tally_write, hd]; rfl
    rw [writeAll_cons, ih (fun e' h' => h e' (List.mem_cons_of_mem _ h')), htotal, hwrite, hd]
    by_cases he : e.event = .begun
    · simp [he]
    · simp [he, TestId.SameAs.refl]

/-- The passed assertions that a report shows for a test. -/
def assertsOf (r : Report) (d : TestId) : Nat := (r.testCase? d).elim 0 TestCase.asserts

theorem assertsOf_writeAll (d : TestId) (es : List Entry) (r : Report) :
    (writeAll es r).assertsOf d =
      r.assertsOf d + es.countP fun e => e.test.SameAs d ∧ e.event = .passed := by
  refine count_writeAll (·.assertsOf d) (fun e r => ?_) es r
  rw [assertsOf, e.testCase?_write, assertsOf]
  by_cases hs : e.test.SameAs d
  · by_cases he : e.event = .begun
    · simp [he]
    · cases hc : r.testCase? d with
      | none => simp [hs, he, Event.amend, TestCase.named]
      | some c => simp [hs, he, Event.amend]
  · simp [hs]

/-! ## One test at one time -/

def told (d : TestId) (clock : Nat) (events : List Event) : List Entry := events.map (⟨d, clock, ·⟩)

theorem Entry.clock_write (e : Entry) (r : Report) : (e.write r).clock = e.clock := by
  obtain ⟨d, clock, event⟩ := e
  cases event <;> rfl

theorem clock_writeAll_told (d : TestId) (events : List Event) (r : Report) :
    (writeAll (told d r.clock events) r).clock = r.clock := by
  induction events generalizing r with
  | nil => rfl
  | cons e rest ih =>
    let r' := (⟨d, r.clock, e⟩ : Entry).write r
    have hclock : r'.clock = r.clock := Entry.clock_write ⟨d, r.clock, e⟩ r
    have hrest : (writeAll (told d r'.clock rest) r').clock = r'.clock := ih r'
    rw [hclock] at hrest
    exact hrest

/-- Events can be told at once or one part after the other. -/
theorem writeAll_told_append (d : TestId) (events events' : List Event) (r : Report) :
    writeAll (told d r.clock (events ++ events')) r =
      writeAll (told d (writeAll (told d r.clock events) r).clock events')
        (writeAll (told d r.clock events) r) := by
  rw [clock_writeAll_told, told, List.map_append, writeAll_append]
  rfl

theorem countP_told (d : TestId) (clock : Nat) (p : Event → Bool) (events : List Event) :
    (told d clock events).countP (fun e => p e.event) = events.countP p := by
  rw [told, List.countP_map]
  rfl

theorem filterMap_told {β : Type} (d : TestId) (clock : Nat) (f : Event → Option β)
    (events : List Event) :
    (told d clock events).filterMap (f ·.event) = events.filterMap f := by
  rw [told, List.filterMap_map]
  rfl

/-! ## One test after the other -/

/-- Entries of tests, all at one time. -/
def toldAll (clock : Nat) (tests : List (TestId × List Event)) : List Entry :=
  tests.flatMap fun p => told p.1 clock p.2

theorem toldAll_cons (clock : Nat) (p : TestId × List Event) (tests : List (TestId × List Event)) :
    toldAll clock (p :: tests) = told p.1 clock p.2 ++ toldAll clock tests := List.flatMap_cons

theorem entriesOf_told (d e : TestId) (clock : Nat) (events : List Event) :
    entriesOf d (told e clock events) = if e.SameAs d then told e clock events else [] := by
  by_cases h : e.SameAs d
  · rw [if_pos h, entriesOf, List.filter_eq_self]
    intro entry hentry
    obtain ⟨_, _, rfl⟩ := List.mem_map.1 hentry
    exact decide_eq_true h
  · rw [if_neg h, entriesOf, List.filter_eq_nil_iff]
    intro entry hentry
    obtain ⟨_, _, rfl⟩ := List.mem_map.1 hentry
    exact mt of_decide_eq_true h

theorem entriesOf_toldAll (d : TestId) (clock : Nat) (tests : List (TestId × List Event)) :
    entriesOf d (toldAll clock tests) = toldAll clock (tests.filter fun p => p.1.SameAs d) := by
  induction tests with
  | nil => rfl
  | cons p rest ih =>
    have hcons : entriesOf d (toldAll clock (p :: rest)) =
        entriesOf d (told p.1 clock p.2) ++ entriesOf d (toldAll clock rest) := by
      rw [toldAll_cons, entriesOf, List.filter_append]; rfl
    rw [hcons, entriesOf_told, ih]
    by_cases h : p.1.SameAs d <;> simp [h, toldAll]

theorem filterMap_toldAll {β : Type} (clock : Nat) (f : Event → Option β)
    (tests : List (TestId × List Event)) :
    (toldAll clock tests).filterMap (f ·.event) = tests.flatMap fun p => p.2.filterMap f := by
  simp only [toldAll, List.filterMap_flatMap, filterMap_told]

end Selenese.Report
