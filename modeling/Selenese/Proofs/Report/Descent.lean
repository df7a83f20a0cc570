import Selenese.Proofs.Report.Scope

/-!
# Selenese.Proofs.Report.Descent

Going to a place in a tree of results: what is reached there, and what stays as it is.

* `Scope.arrive path s` is the scope that a path leads to, and a new one where it is missing.
  `Scope.arrive_eq`: where looking up finds a scope, it is that one.
* `Scope.find?_alter`: changing the scope at the end of a path changes what is found along the path,
  and nothing else. `Scope.steps_alter` and `Scope.names_alterCase` tell of the children and the test
  cases of a scope.
* `Scope.caseCount_alter` and `Scope.caseCount_descend` tell of the number of test cases.
-/

namespace Selenese.Report

open Text

namespace Scope

/-! ## Arriving -/

def arrive : List Step → Scope → Scope
  | [], s => s
  | step :: path, s => arrive path ((s.scopes.find? (fits step)).getD (ofStep step))

theorem alter_cons (step : Step) (path : List Step) (f : Scope → Scope) (s : Scope) :
    s.alter (step :: path) f = s.alterChild step (alter path f) := rfl

theorem find?_getD (a : Step) (path : List Step) (step : Step) (o : Option Scope) :
    (o.getD (ofStep step)).find? (a :: path) = o.bind (find? (a :: path)) := by
  cases o <;> rfl

theorem fits_congr {a b : Step} (h : a.key = b.key) : fits a = fits b := by
  rw [fits_eq, fits_eq, h]

theorem find?_congr {p q : List Step} (h : p.map Step.key = q.map Step.key) (s : Scope) :
    s.find? p = s.find? q := by
  induction p generalizing q s with
  | nil =>
    cases q with
    | nil => rfl
    | cons b q => cases h
  | cons a p ih =>
    cases q with
    | nil => cases h
    | cons b q =>
      obtain ⟨hab, hpq⟩ := List.cons.inj h
      rw [find?, find?, fits_congr hab]
      exact congrArg _ (funext fun c => ih hpq c)

theorem arrive_eq (path : List Step) (d : Step) (s : Scope) :
    arrive path s = (s.find? path).getD (ofStep (path.getLastD d)) := by
  induction path generalizing d s with
  | nil => rfl
  | cons step path ih =>
    rw [arrive, find?, List.getLastD_cons, ih step]
    cases s.scopes.find? (fits step) with
    | some c => rfl
    | none =>
      cases path with
      | nil => rfl
      | cons a path => rfl

theorem arrive_of_find? {p q : List Step} (h : p.map Step.key = q.map Step.key) {s t : Scope}
    (ht : s.find? p = some t) : arrive q s = t := by
  rw [find?_congr h] at ht
  rw [arrive_eq q ⟨.segment, ""⟩, ht, Option.getD_some]

theorem key_alter {f : Scope → Scope} (hf : ∀ s, (f s).key = s.key) (path : List Step) (s : Scope) :
    (s.alter path f).key = s.key := by
  cases path with
  | nil => exact hf s
  | cons step path => rfl

section

variable {f : Scope → Scope} (hf : ∀ s, (f s).key = s.key) (hscopes : ∀ s, (f s).scopes = s.scopes)

include hf hscopes

/-- By induction on the path of the change, with the path of the look-up held against it step by
step. -/
theorem find?_alter (q p : List Step) (s : Scope) :
    (s.alter q f).find? p =
      if p.map Step.key <+: q.map Step.key then
        some ((arrive (q.take p.length) s).alter (q.drop p.length) f)
      else s.find? p := by
  induction q generalizing p s with
  | nil =>
    cases p with
    | nil => rfl
    | cons a p =>
      rw [if_neg (by simp)]
      show ((f s).scopes.find? (fits a)).bind (find? p) = _
      rw [hscopes]
      rfl
  | cons step q ih =>
    cases p with
    | nil => exact (if_pos List.nil_prefix).symm
    | cons a p =>
      have h := find?_alterOrAdd Scope.key (key_ofStep step) (key_alter hf q) a.key s.scopes
      rw [alter_cons, find?, alterChild, fits_eq step, fits_eq a, h]
      simp only [List.map_cons, List.cons_prefix_cons, List.length_cons, List.take_succ_cons,
        List.drop_succ_cons]
      by_cases hk : step.key = a.key
      · rw [if_pos hk, Option.bind_some, ih, arrive, fits_eq step, hk]
        by_cases hp : p.map Step.key <+: q.map Step.key
        · rw [if_pos hp, if_pos ⟨rfl, hp⟩]
        · rw [if_neg hp, if_neg fun h => hp h.2, find?, fits_eq a]
          cases p with
          | nil => exact absurd List.nil_prefix hp
          | cons b p => exact find?_getD b p step _
      · rw [if_neg hk, if_neg fun h => hk h.1.symm, find?, fits_eq a]

end

/-! ## Children and test cases -/

/-- The step by which a scope was created. -/
def step (s : Scope) : Step := ⟨s.kind, s.name⟩

def steps (s : Scope) : List Step := s.scopes.map step

def names (s : Scope) : List String := s.cases.map TestCase.name

theorem steps_alterChild (a : Step) {g : Scope → Scope} (hg : ∀ s, (g s).step = s.step)
    (s : Scope) : (s.alterChild a g).steps = note Step.key s.steps a := by
  have hnew : (ofStep a).step = a := rfl
  rw [steps, alterChild, fits_eq]
  exact map_alterOrAdd_note Step.key step hnew hg s.scopes

theorem names_alterCase (name : String) {g : TestCase → TestCase} (hg : ∀ c, (g c).name = c.name)
    (s : Scope) : (s.alterCase name g).names = note foldAscii s.names name := by
  have hnew : (TestCase.named name).name = name := rfl
  rw [names, alterCase, TestCase.isNamed_eq]
  exact map_alterOrAdd_note foldAscii TestCase.name hnew hg s.cases

theorem step_alter {f : Scope → Scope} (hf : ∀ s, (f s).step = s.step) (path : List Step)
    (s : Scope) : (s.alter path f).step = s.step := by
  cases path with
  | nil => exact hf s
  | cons a path => rfl

theorem steps_alter {f : Scope → Scope} (hf : ∀ s, (f s).step = s.step)
    (hscopes : ∀ s, (f s).scopes = s.scopes) (path : List Step) (s : Scope) :
    (s.alter path f).steps = path.head?.elim s.steps (note Step.key s.steps) := by
  cases path with
  | nil => exact congrArg (List.map step) (hscopes s)
  | cons a path => exact steps_alterChild a (step_alter hf path) s

/-! ## The number of test cases -/

theorem caseCount_eq (s : Scope) :
    s.caseCount = s.cases.length + (s.scopes.map caseCount).sum := by
  have hin (l : List Scope) : caseCounts l = (l.map caseCount).sum := by
    induction l with
    | nil => rfl
    | cons s r ih => rw [caseCounts, ih]; rfl
  cases s
  rw [caseCount, hin]

/-- Test cases that are added where a path leads are added to the whole. -/
theorem caseCount_alter {f : Scope → Scope} {n : Nat} (path : List Step) (s : Scope)
    (hf : (f (arrive path s)).caseCount = (arrive path s).caseCount + n) :
    (s.alter path f).caseCount = s.caseCount + n := by
  induction path generalizing s with
  | nil => exact hf
  | cons a path ih =>
    rw [caseCount_eq, caseCount_eq s]
    show _ + ((alterOrAdd (fits a) (ofStep a) (alter path f) s.scopes).map caseCount).sum = _
    rw [sum_alterOrAdd caseCount rfl (ih _ hf)]
    exact (Nat.add_assoc _ _ _).symm

theorem caseCount_alterCase (name : String) (g : TestCase → TestCase) (s : Scope) :
    (s.alterCase name g).caseCount =
      s.caseCount + if (s.cases.find? (TestCase.isNamed name)).isNone then 1 else 0 := by
  rw [caseCount_eq, caseCount_eq s, alterCase, length_alterOrAdd]
  exact Nat.add_right_comm _ _ _

theorem Visit.caseCount {v : Scope → Scope} (hv : Visit v) (s : Scope) :
    (v s).caseCount = s.caseCount := by
  rw [caseCount_eq, caseCount_eq s, hv.cases, hv.scopes]

/-- Going down a path to a test case adds it where looking it up finds none. Visits on the way add
nothing. -/
theorem caseCount_descend {steps : List (Step × (Scope → Scope))} (hv : ∀ p ∈ steps, Visit p.2)
    (name : String) (g : TestCase → TestCase) (s : Scope) :
    (s.descend steps (alterCase name g)).caseCount =
      s.caseCount + if (s.case? (steps.map Prod.fst) name).isNone then 1 else 0 := by
  induction steps generalizing s with
  | nil => exact caseCount_alterCase name g s
  | cons p rest ih =>
    obtain ⟨step, visit⟩ := p
    have hvisit : Visit visit := hv (step, visit) List.mem_cons_self
    have hchild (t : Scope) := ih (fun p hp => hv p (List.mem_cons_of_mem _ hp)) (visit t)
    simp only [hvisit.caseCount, hvisit.case?] at hchild
    rw [List.map_cons, case?_cons, ← case?_getD _ name step, caseCount_eq, caseCount_eq s]
    show _ + ((alterOrAdd (fits step) (ofStep step) _ s.scopes).map caseCount).sum = _
    rw [sum_alterOrAdd caseCount rfl (hchild _)]
    exact (Nat.add_assoc _ _ _).symm

end Scope

end Selenese.Report
