import Selenese.Proofs.Report.Members

/-!
# Selenese.Proofs.Report.Tree

What looking up a test case answers after a test case was changed.

* A place in the tree is known by its `Step.key`s: kinds, and names up to the case of ASCII letters.
* `Scope.case?_descend`: going down a path and changing a test case changes the answer for that path
  and that name, and for no other. Creation and change are one case: a test case that is missing
  counts as a new one.
* The scopes on the way may be changed too, as long as a `Visit` leaves name and children alone.
-/

namespace Selenese.Report

open Text

/-! ## Keys -/

/-- What a step is compared by. -/
def Step.key (s : Step) : ScopeKind × List Char := (s.kind, foldAscii s.name)

namespace TestCase

theorem isNamed_eq (name : String) :
    isNamed name = fun c => decide (foldAscii c.name = foldAscii name) := by
  funext c
  rw [Bool.eq_iff_iff]
  simp [isNamed, sameIgnoringCase]

end TestCase

namespace Scope

def key (s : Scope) : ScopeKind × List Char := (s.kind, foldAscii s.name)

theorem key_ofStep (s : Step) : (ofStep s).key = s.key := rfl

theorem fits_eq (step : Step) : fits step = fun s => decide (s.key = step.key) := by
  funext s
  rw [Bool.eq_iff_iff]
  simp [fits, key, Step.key, sameIgnoringCase, beq_iff_eq]

/-- A change of a scope that leaves its name and its children alone. -/
structure Visit (v : Scope → Scope) : Prop where
  kind : ∀ s, (v s).kind = s.kind
  name : ∀ s, (v s).name = s.name
  scopes : ∀ s, (v s).scopes = s.scopes
  cases : ∀ s, (v s).cases = s.cases

theorem Visit.touch (u : Flags) (t : Nat) : Visit (touch u t) :=
  ⟨fun _ => rfl, fun _ => rfl, fun _ => rfl, fun _ => rfl⟩

theorem Visit.id : Visit id := ⟨fun _ => rfl, fun _ => rfl, fun _ => rfl, fun _ => rfl⟩

/-! On the way of `alter` nothing is changed. -/

theorem map_fst_map_id (path : List Step) :
    (path.map (·, (id : Scope → Scope))).map Prod.fst = path := by
  simp [Function.comp_def]

theorem visit_of_mem_map_id {path : List Step} {p : Step × (Scope → Scope)}
    (h : p ∈ path.map (·, id)) : Visit p.2 := by
  obtain ⟨_, _, rfl⟩ := List.mem_map.1 h
  exact .id

/-! ## Looking up -/

theorem case?_nil (name : String) (s : Scope) :
    s.case? [] name = s.cases.find? (TestCase.isNamed name) := rfl

theorem case?_cons (step : Step) (path : List Step) (name : String) (s : Scope) :
    s.case? (step :: path) name = (s.scopes.find? (fits step)).bind (case? path name) := by
  simp only [case?, find?, Option.bind_assoc]
  rfl

theorem case?_ofStep (path : List Step) (name : String) (step : Step) :
    (ofStep step).case? path name = none := by
  cases path with
  | nil => rfl
  | cons a p => rw [case?_cons]; rfl

theorem case?_getD (path : List Step) (name : String) (step : Step) (o : Option Scope) :
    (o.getD (ofStep step)).case? path name = o.bind (case? path name) := by
  cases o with
  | none => exact case?_ofStep path name step
  | some s => rfl

theorem Visit.case? {v : Scope → Scope} (hv : Visit v) (path : List Step) (name : String)
    (s : Scope) :
    (v s).case? path name = s.case? path name := by
  cases path with
  | nil => rw [case?_nil, case?_nil, hv.cases]
  | cons a p => rw [case?_cons, case?_cons, hv.scopes]

theorem descend_key {steps : List (Step × (Scope → Scope))} (hv : ∀ p ∈ steps, Visit p.2)
    {f : Scope → Scope} (hf : ∀ s, (f s).key = s.key) (s : Scope) :
    (descend steps f s).key = s.key := by
  cases steps with
  | nil => exact hf s
  | cons p rest => rfl

/-- By induction on the path of the change, with the path of the look-up held against it step by
step. -/
theorem case?_descend {steps : List (Step × (Scope → Scope))} (hv : ∀ p ∈ steps, Visit p.2)
    {g : TestCase → TestCase} (hg : ∀ c, (g c).name = c.name) (name name' : String)
    (path : List Step) (s : Scope) :
    (descend steps (alterCase name g) s).case? path name' =
      if steps.map (·.1.key) = path.map Step.key ∧ foldAscii name = foldAscii name' then
        some (g ((s.case? path name').getD (.named name)))
      else s.case? path name' := by
  induction steps generalizing path s with
  | nil =>
    cases path with
    | nil =>
      have hnew : foldAscii (TestCase.named name).name = foldAscii name := rfl
      have h := find?_alterOrAdd (fun c : TestCase => foldAscii c.name) hnew
        (fun c => congrArg foldAscii (hg c)) (foldAscii name') s.cases
      simpa [descend, alterCase, case?_nil, TestCase.isNamed_eq] using h
    | cons a p => rw [case?_cons, case?_cons]; simp [descend, alterCase]
  | cons q rest ih =>
    obtain ⟨step, v⟩ := q
    have hrest : ∀ p ∈ rest, Visit p.2 := fun p hp => hv p (List.mem_cons_of_mem _ hp)
    have hvisit : Visit v := hv (step, v) List.mem_cons_self
    cases path with
    | nil => rw [case?_nil, case?_nil]; simp [descend, alterChild]
    | cons a p =>
      have hkey : ∀ t : Scope, (descend rest (alterCase name g) (v t)).key = t.key := by
        intro t
        rw [descend_key (f := alterCase name g) hrest (fun _ => rfl), key, hvisit.kind,
          hvisit.name]; rfl
      have h := find?_alterOrAdd Scope.key (key_ofStep step) hkey a.key s.scopes
      rw [case?_cons, case?_cons, fits_eq a]
      simp only [descend, alterChild, fits_eq step, h]
      by_cases hk : step.key = a.key
      · simp only [hk, if_true, Option.bind_some, ih hrest, hvisit.case?, case?_getD, List.map_cons,
          List.cons.injEq, true_and]
      · simp only [hk, if_false, List.map_cons, List.cons.injEq, false_and]

end Scope

end Selenese.Report
