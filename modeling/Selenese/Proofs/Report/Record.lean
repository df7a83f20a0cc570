import Selenese.Proofs.Report.Growth
import Selenese.Proofs.TestId
import Selenese.Report

/-!
# Selenese.Proofs.Report.Record

What one operation on a report does to its test cases and its tally.

* `Report.testCase?_record` and `Report.testCase?_addProperty`: the test case of the operation is
  changed, or created and changed; the test case of any other test stays as it is, even when both
  have the same full path.
* `Report.tally_record` and `Report.tally_addProperty`: a test case that is created is counted, and
  nothing else is counted but what the operation itself counts.
* `Report.isNone_testCase?`: a test is looked up in vain before an operation exactly if the operation,
  once it arrives in the tree, creates the test case. `Report.caseCount_record` and
  `Report.caseCount_addProperty`: then the tree has one more, and otherwise as many as before.
-/

namespace Selenese.Report

open Text

/-- Two tests have one place in the tree exactly when they are the same test. -/
theorem place_eq_iff {d e : TestId} :
    (path d).map Step.key = (path e).map Step.key ∧ foldAscii d.fullPath = foldAscii e.fullPath ↔
      d.SameAs e := by
  have hkeys (d : TestId) : (path d).map Step.key =
      ((d.segments.drop 1).map foldAscii).map (Prod.mk .segment) ++
        [(.fixture, foldAscii d.fixture)] := by
    rw [path, List.map_append, List.map_map, List.map_map]; rfl
  rw [TestId.sameAs_iff, hkeys d, hkeys e]
  constructor
  · rintro ⟨hpath, hfull⟩
    obtain ⟨htail, hfix⟩ := List.append_inj' hpath rfl
    refine ⟨(List.map_inj_right fun _ _ h => (Prod.mk.inj h).2).1 htail, ?_, hfull⟩
    exact (Prod.mk.inj (List.cons.inj hfix).1).2
  · rintro ⟨htail, hfix, hfull⟩
    rw [htail, hfix]
    exact ⟨rfl, hfull⟩

/-- A report without a root finds as much as one whose root is new. -/
theorem case?_root (r : Report) (d e : TestId) :
    (r.root.getD (rootOf d)).case? (path e) e.fullPath = r.testCase? e :=
  Scope.case?_getD _ _ _ _

/-- Going down to a test and changing its test case. -/
theorem case?_place {d : TestId} {steps : List (Step × (Scope → Scope))}
    (hsteps : steps.map Prod.fst = path d) (hv : ∀ p ∈ steps, Scope.Visit p.2)
    (g : TestCase → TestCase) (hg : ∀ c, (g c).name = c.name) (e : TestId) (s : Scope) :
    (s.descend steps (Scope.alterCase d.fullPath g)).case? (path e) e.fullPath =
      if d.SameAs e then some (g ((s.case? (path e) e.fullPath).getD (.named d.fullPath)))
      else s.case? (path e) e.fullPath := by
  have hkeys : steps.map (·.1.key) = (path d).map Step.key := by rw [← hsteps, List.map_map]; rfl
  rw [Scope.case?_descend hv hg, hkeys]
  by_cases h : d.SameAs e
  · rw [if_pos h, if_pos (place_eq_iff.2 h)]
  · rw [if_neg h, if_neg (mt place_eq_iff.1 h)]

theorem length_scopeKeys (d : TestId) : ((scopeKeys d).drop 1).length = (path d).length := by
  have hgo (key : String) (l : List String) : (scopeKeys.go key l).length = l.length := by
    induction l generalizing key with
    | nil => rfl
    | cons s r ih => rw [scopeKeys.go, List.length_cons, ih, List.length_cons]
  simp [scopeKeys, path, hgo]

/-- What `record` does to the scopes below the root. -/
def visits (d : TestId) (update : Flags) (r : Report) : List (Step × (Scope → Scope)) :=
  (path d).zip (((scopeKeys d).drop 1).map fun key => Scope.touch update (r.elapsed key))

theorem map_fst_visits (d : TestId) (update : Flags) (r : Report) :
    (visits d update r).map Prod.fst = path d := by
  apply List.map_fst_zip
  exact Nat.le_of_eq (by rw [List.length_map, length_scopeKeys])

theorem touch_of_mem_visits {d : TestId} {update : Flags} {r : Report} {p : Step × (Scope → Scope)}
    (h : p ∈ visits d update r) : ∃ t, p.2 = Scope.touch update t := by
  obtain ⟨key, _, hkey⟩ := List.mem_map.1 (List.of_mem_zip h).2
  exact ⟨_, hkey.symm⟩

theorem visit_of_mem_visits {d : TestId} {update : Flags} {r : Report} {p : Step × (Scope → Scope)}
    (h : p ∈ visits d update r) : Scope.Visit p.2 := by
  obtain ⟨t, ht⟩ := touch_of_mem_visits h
  exact ht ▸ .touch update t

theorem root_record (d : TestId) (update : Flags) (onCase : TestCase → TestCase)
    (onTally : Tally → Tally) (r : Report) :
    (r.record d update onCase onTally).root =
      some (((r.root.getD (rootOf d)).touch update (r.elapsed ((scopeKeys d).headD ""))).descend
        (visits d update r)
        (Scope.alterCase d.fullPath fun c => (onCase c).touch update (r.elapsed d.fullPath))) := rfl

theorem testCase?_record {onCase : TestCase → TestCase} (hc : ∀ c, (onCase c).name = c.name)
    (d e : TestId) (update : Flags) (onTally : Tally → Tally) (r : Report) :
    (r.record d update onCase onTally).testCase? e =
      if d.SameAs e then
        some ((onCase ((r.testCase? e).getD (.named d.fullPath))).touch update (r.elapsed d.fullPath))
      else r.testCase? e := by
  have hplace := case?_place (map_fst_visits d update r) (fun _ => visit_of_mem_visits)
    (fun c => (onCase c).touch update (r.elapsed d.fullPath)) hc e
  rw [testCase?, root_record, Option.bind_some, hplace, (Scope.Visit.touch _ _).case?, case?_root]

theorem testCase?_addProperty (d e : TestId) (name value : String) (r : Report) :
    (r.addProperty d name value).testCase? e =
      if d.SameAs e then some (((r.testCase? e).getD (.named d.fullPath)).addProperty name value)
      else r.testCase? e := by
  have hplace := case?_place (Scope.map_fst_map_id (path d)) (fun _ => Scope.visit_of_mem_map_id)
    (TestCase.addProperty name value) (fun _ => rfl) e
  rw [addProperty, testCase?, Option.bind_some, Scope.alter, hplace, case?_root]

theorem tally_record (d : TestId) (update : Flags) (onCase : TestCase → TestCase)
    (onTally : Tally → Tally) (r : Report) :
    (r.record d update onCase onTally).tally = onTally (r.countCase d) := rfl

theorem tally_addProperty (d : TestId) (name value : String) (r : Report) :
    (r.addProperty d name value).tally = r.countCase d := rfl

/-! ## Creation -/

/-- A test is looked up in vain exactly where an edit that goes to its test case creates it. -/
theorem isNone_testCase? (r : Report) (d : TestId) {g : TestCase → TestCase}
    (hg : ∀ c, (g c).name = c.name) :
    (r.testCase? d).isNone =
      Edit.creates ⟨path d, .onCase d.fullPath g hg⟩ (r.root.getD (rootOf d)) := by
  have harrive := Scope.case?_arrive (p := path d) rfl d.fullPath (r.root.getD (rootOf d))
  rw [← case?_root r d d, ← harrive]
  rfl

/-- The number of test cases in the tree. -/
def caseCount (r : Report) : Nat := r.root.elim 0 Scope.caseCount

theorem caseCount_root (r : Report) (d : TestId) :
    (r.root.getD (rootOf d)).caseCount = r.caseCount := by
  rw [caseCount]
  cases r.root <;> rfl

theorem caseCount_record (d : TestId) (update : Flags) (onCase : TestCase → TestCase)
    (onTally : Tally → Tally) (r : Report) :
    (r.record d update onCase onTally).caseCount =
      r.caseCount + if (r.testCase? d).isNone then 1 else 0 := by
  have hroot := Scope.Visit.touch update (r.elapsed ((scopeKeys d).headD ""))
  rw [caseCount, root_record, Option.elim_some,
    Scope.caseCount_descend fun _ => visit_of_mem_visits, map_fst_visits, hroot.caseCount,
    hroot.case?, case?_root, caseCount_root]

theorem caseCount_addProperty (d : TestId) (name value : String) (r : Report) :
    (r.addProperty d name value).caseCount =
      r.caseCount + if (r.testCase? d).isNone then 1 else 0 := by
  rw [isNone_testCase? r d (g := TestCase.addProperty name value) fun _ => rfl, ← caseCount_root r d]
  exact Edit.caseCount_run (.addProperty (path d) d.fullPath name value) _

end Selenese.Report
