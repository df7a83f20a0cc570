import Mathlib.Algebra.GroupWithZero.Nat
import Mathlib.Data.Finset.Card
import Selenese.Proofs.Report.Tally

/-!
# Selenese.Proofs.Report.Census

Totals over a whole report.

* `Report.allCases r`: the test cases of the tree. `Report.asserts_writeAll`: their passed assertions
  together are as many as were told, whatever tests share a test case.
* `Report.seen es`: the tests that entries tell more of than a start. `Report.total_create`: a new
  report counts one test case for each of them.
* `Report.total_eq_caseCount`: these are as many as the test cases of its tree.
* `Report.counts_le_length`: no count goes beyond the number of entries, so a report of fewer than
  `2 ^ 32` entries keeps all of them within 32 bits.
-/

namespace Selenese.Report

namespace Scope

mutual

/-- The test cases in this scope and all below. -/
def allCases : Scope → List TestCase
  | ⟨_, _, _, _, scopes, cases⟩ => cases ++ allCasesIn scopes

def allCasesIn : List Scope → List TestCase
  | [] => []
  | s :: r => allCases s ++ allCasesIn r

end

/-- The passed assertions in this scope and all below. -/
def asserts (s : Scope) : Nat := (s.allCases.map TestCase.asserts).sum

theorem asserts_eq (s : Scope) :
    s.asserts = (s.cases.map TestCase.asserts).sum + (s.scopes.map asserts).sum := by
  have hin (l : List Scope) :
      ((allCasesIn l).map TestCase.asserts).sum = (l.map asserts).sum := by
    induction l with
    | nil => rfl
    | cons s r ih => rw [allCasesIn, List.map_append, List.sum_append_nat, ih]; rfl
  cases s
  rw [asserts, allCases, List.map_append, List.sum_append_nat, hin]

theorem asserts_alterCase {f : TestCase → TestCase} {n : Nat}
    (hf : ∀ c, (f c).asserts = c.asserts + n) (name : String) (s : Scope) :
    (s.alterCase name f).asserts = s.asserts + n := by
  rw [asserts_eq, asserts_eq s]
  show ((alterOrAdd (TestCase.isNamed name) (TestCase.named name) f s.cases).map _).sum +
    (s.scopes.map asserts).sum = _
  rw [sum_alterOrAdd TestCase.asserts rfl (hf _)]
  exact Nat.add_right_comm _ _ _

theorem Visit.asserts {v : Scope → Scope} (hv : Visit v) (s : Scope) :
    (v s).asserts = s.asserts := by
  rw [asserts_eq, asserts_eq s, hv.cases, hv.scopes]

theorem asserts_descend {steps : List (Step × (Scope → Scope))} (hv : ∀ p ∈ steps, Visit p.2)
    {f : Scope → Scope} {n : Nat} (hf : ∀ s, (f s).asserts = s.asserts + n) (s : Scope) :
    (s.descend steps f).asserts = s.asserts + n := by
  induction steps generalizing s with
  | nil => exact hf s
  | cons p rest ih =>
    obtain ⟨step, visit⟩ := p
    have hchild (t : Scope) : (descend rest f (visit t)).asserts = t.asserts + n := by
      rw [ih fun p hp => hv p (List.mem_cons_of_mem _ hp),
        (hv (step, visit) List.mem_cons_self).asserts]
    rw [asserts_eq, asserts_eq s]
    show _ + ((alterOrAdd (fits step) (ofStep step) _ s.scopes).map _).sum = _
    rw [sum_alterOrAdd asserts rfl (hchild _)]
    exact (Nat.add_assoc _ _ _).symm

end Scope

/-! ## Passed assertions -/

def allCases (r : Report) : List TestCase := r.root.elim [] Scope.allCases

/-- The passed assertions of all test cases together. -/
def asserts (r : Report) : Nat := (r.allCases.map TestCase.asserts).sum

theorem asserts_eq (r : Report) : r.asserts = r.root.elim 0 Scope.asserts := by
  rw [asserts, allCases]
  cases r.root <;> rfl

theorem asserts_root (r : Report) (d : TestId) : (r.root.getD (rootOf d)).asserts = r.asserts := by
  rw [asserts_eq]
  cases r.root <;> rfl

theorem asserts_record {onCase : TestCase → TestCase} {n : Nat}
    (hc : ∀ c, (onCase c).asserts = c.asserts + n) (d : TestId) (update : Flags)
    (onTally : Tally → Tally) (r : Report) :
    (r.record d update onCase onTally).asserts = r.asserts + n := by
  rw [asserts_eq, root_record, Option.elim_some,
    Scope.asserts_descend (fun _ => visit_of_mem_visits) fun s => Scope.asserts_alterCase (fun c => by exact hc c) _ s,
    (Scope.Visit.touch _ _).asserts, asserts_root]

theorem asserts_addProperty (d : TestId) (name value : String) (r : Report) :
    (r.addProperty d name value).asserts = r.asserts := by
  have hcase (s : Scope) : (Scope.alterCase d.fullPath (TestCase.addProperty name value) s).asserts =
      s.asserts + 0 := Scope.asserts_alterCase (fun _ => rfl) _ s
  rw [asserts_eq, addProperty, Option.elim_some, Scope.alter,
    Scope.asserts_descend (fun _ => Scope.visit_of_mem_map_id) hcase, asserts_root]
  rfl

theorem Event.asserts_write (e : Event) (d : TestId) (r : Report) :
    (e.write d r).asserts = r.asserts + if e = passed then 1 else 0 := by
  cases e with
  | begun => rfl
  | property name value => exact asserts_addProperty d name value r
  | passed => exact asserts_record (fun _ => rfl) d _ id r
  | _ => simp [write, Report.failed, Report.exception, Report.ignored, Report.inconclusive,
      Report.invalid, asserts_record (n := 0)]

theorem asserts_writeAll (es : List Entry) (r : Report) :
    (writeAll es r).asserts = r.asserts + es.countP fun e => e.event = .passed := by
  refine count_writeAll asserts (fun e r => ?_) es r
  rw [Entry.write, e.event.asserts_write]
  simp only [decide_eq_true_eq]
  rfl

/-! ## Test cases -/

/-- The tests that have a test case in a report. -/
structure Census (tests : Finset (List Char × List Char × List Char)) (r : Report) : Prop where
  member : ∀ d : TestId, r.testCase? d = none ↔ d.key ∉ tests
  total : r.tally.total = tests.card

theorem Census.write {tests : Finset (List Char × List Char × List Char)} {r : Report}
    (h : Census tests r) (e : Entry) :
    Census (if e.event = .begun then tests else insert e.test.key tests) (e.write r) := by
  have htotal : (e.write r).tally.total =
      r.tally.total + if e.event ≠ .begun ∧ r.testCase? e.test = none then 1 else 0 := by
    rw [Entry.write, e.event.tally_write]
    rfl
  constructor
  · intro d
    rw [e.testCase?_write]
    by_cases hbegun : e.event = .begun
    · simpa [hbegun] using h.member d
    · by_cases hsame : e.test.SameAs d
      · simp [hbegun, hsame, TestId.key_eq_iff.2 hsame]
      · have hkey : ¬ d.key = e.test.key := fun hk => hsame (TestId.key_eq_iff.1 hk.symm)
        simpa [hbegun, hsame, hkey] using h.member d
  · simp only [htotal, h.total, h.member]
    by_cases hbegun : e.event = .begun
    · simp [hbegun]
    · by_cases hold : e.test.key ∈ tests
      · simp [hbegun, hold]
      · simp [hbegun, hold, Finset.card_insert_of_notMem]

def seen (es : List Entry) : Finset (List Char × List Char × List Char) :=
  ((es.filter fun e => e.event ≠ .begun).map (·.test.key)).toFinset

theorem Census.writeAll (es : List Entry) {tests : Finset (List Char × List Char × List Char)}
    {r : Report} (h : Census tests r) : Census (tests ∪ seen es) (writeAll es r) := by
  induction es generalizing tests r with
  | nil => simpa [seen, Report.writeAll] using h
  | cons e rest ih =>
    have hrest := ih (h.write e)
    rw [writeAll_cons]
    by_cases hbegun : e.event = .begun
    · simpa [seen, hbegun] using hrest
    · simpa [seen, hbegun] using hrest

/-- A new report counts the tests that it was told more of than a start. -/
theorem total_create (name : String) (created : Stamp) (environment : Environment)
    (es : List Entry) :
    (writeAll es (create name created environment)).tally.total = (seen es).card := by
  have hstart : Census ∅ (create name created environment) :=
    ⟨fun _ => by simp [testCase?, create], rfl⟩
  simpa using (hstart.writeAll es).total

theorem card_seen_le (es : List Entry) : (seen es).card ≤ es.length := by
  calc (seen es).card
      ≤ ((es.filter fun e => e.event ≠ .begun).map (·.test.key)).length := List.toFinset_card_le _
    _ = (es.filter fun e => e.event ≠ .begun).length := List.length_map _
    _ ≤ es.length := List.length_filter_le _ _

/-! ## The total and the tree -/

theorem Event.caseCount_write (e : Event) (d : TestId) (r : Report) :
    (e.write d r).caseCount =
      r.caseCount + if e ≠ begun ∧ r.testCase? d = none then 1 else 0 := by
  cases e with
  | begun => rfl
  | property name value => simp [write, caseCount_addProperty]
  | _ => simp [write, Report.passed, Report.failed, Report.exception, Report.ignored,
      Report.inconclusive, Report.invalid, caseCount_record]

/-- What an event adds to the total it adds to the tree. -/
theorem Event.total_write (e : Event) (d : TestId) (r : Report) :
    (e.write d r).tally.total + r.caseCount = r.tally.total + (e.write d r).caseCount := by
  rw [e.caseCount_write, e.tally_write]
  exact (Nat.add_right_comm _ _ _).trans (Nat.add_assoc _ _ _)

theorem total_caseCount_writeAll (es : List Entry) (r : Report) :
    (writeAll es r).tally.total + r.caseCount = r.tally.total + (writeAll es r).caseCount := by
  induction es generalizing r with
  | nil => rfl
  | cons e rest ih =>
    have hstep : (e.write r).tally.total + r.caseCount = r.tally.total + (e.write r).caseCount :=
      e.event.total_write e.test { r with clock := e.clock }
    have hrest := ih (e.write r)
    rw [writeAll_cons]
    omega

/-- **The total of a report is the number of test cases in its tree.** -/
theorem total_eq_caseCount (name : String) (created : Stamp) (environment : Environment)
    (es : List Entry) :
    let r := writeAll es (create name created environment)
    r.tally.total = r.caseCount := by
  have h := total_caseCount_writeAll es (create name created environment)
  exact h.trans (Nat.zero_add _)

/-! ## Bounds -/

/-- Every count is a count of entries, or of tests that entries tell of. -/
theorem counts_le_length (name : String) (created : Stamp) (environment : Environment)
    (es : List Entry) :
    let r := writeAll es (create name created environment)
    r.tally.total ≤ es.length ∧ r.tally.errors ≤ es.length ∧ r.tally.failures ≤ es.length ∧
      r.tally.inconclusive ≤ es.length ∧ r.tally.ignored ≤ es.length ∧
      r.tally.invalid ≤ es.length ∧ r.asserts ≤ es.length := by
  intro r
  obtain ⟨herrors, hfailures, hinconclusive, hignored, hinvalid⟩ :=
    tally_writeAll es (create name created environment)
  have hasserts := asserts_writeAll es (create name created environment)
  have hcounted {n : Nat} {p : Entry → Bool} (h : n = 0 + es.countP p) : n ≤ es.length := by
    rw [h, Nat.zero_add]
    exact List.countP_le_length
  refine ⟨?_, hcounted herrors, hcounted hfailures, hcounted hinconclusive, hcounted hignored,
    hcounted hinvalid, hcounted hasserts⟩
  exact (total_create name created environment es).trans_le (card_seen_le es)

end Selenese.Report
