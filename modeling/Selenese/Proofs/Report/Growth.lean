import Selenese.Proofs.Report.Descent

/-!
# Selenese.Proofs.Report.Growth

Trees of results that grow by edits.

* An `Edit` goes down a path, creating what is missing, and then visits the scope at its end or goes
  to a test case there and changes it. `editAll es s` makes edits one after another.
* `Scope.Grown first es t`: what a tree shows of the edits `es` it grew by, from the scope of the
  step `first`. Children and test cases stand in the order in which edits first went to them.
* `Edit.Effect e t`: what the edit `e` reaches in the tree `t`, and what it leaves as it is.
* `Scope.Extends s s'`: the scope `s'` is `s` with more in it.
* `Scope.grown_editAll`: every tree that grows by edits shows them, every further edit has its
  effect, and what stands in the tree stays and is only extended.
-/

namespace Selenese.Report

open Text

/-! ## Edits -/

inductive Act where
  /-- A change of what a scope shows of itself, such as its flags and its time. -/
  | visit (v : Scope → Scope) (hv : Scope.Visit v)
  | onCase (name : String) (g : TestCase → TestCase) (hg : ∀ c, (g c).name = c.name)

namespace Act

def run : Act → Scope → Scope
  | visit v _ => v
  | onCase name g _ => Scope.alterCase name g

def caseName? : Act → Option String
  | visit _ _ => none
  | onCase name _ _ => some name

end Act

/-- Going down a path, and what is done at its end. -/
structure Edit where
  path : List Step
  act : Act

namespace Edit

def run (e : Edit) (s : Scope) : Scope := s.alter e.path e.act.run

/-- Goes to a scope. -/
def scope (path : List Step) : Edit := ⟨path, .visit id .id⟩

def touchScope (path : List Step) (update : Flags) (elapsed : Nat) : Edit :=
  ⟨path, .visit (Scope.touch update elapsed) (.touch update elapsed)⟩

/-- Goes to a test case. -/
def testCase (path : List Step) (name : String) : Edit := ⟨path, .onCase name id fun _ => rfl⟩

def touchCase (path : List Step) (name : String) (update : Flags) (elapsed : Nat) : Edit :=
  ⟨path, .onCase name (TestCase.touch update elapsed) fun _ => rfl⟩

def addProperty (path : List Step) (name property value : String) : Edit :=
  ⟨path, .onCase name (TestCase.addProperty property value) fun _ => rfl⟩

/-- The edit goes to a test case that is not there where it arrives. -/
def creates (e : Edit) (s : Scope) : Bool :=
  match e.act.caseName? with
  | none => false
  | some name => ((Scope.arrive e.path s).cases.find? (TestCase.isNamed name)).isNone

def Through (p : List Step) (e : Edit) : Prop := p.map Step.key <+: e.path.map Step.key

instance (p : List Step) (e : Edit) : Decidable (e.Through p) :=
  inferInstanceAs (Decidable (_ <+: _))

/-- The step that an edit takes on from the scope at the end of a path. -/
def step? (p : List Step) (e : Edit) : Option Step :=
  if e.Through p then e.path[p.length]? else none

/-- The test case that an edit goes to in the scope at the end of a path. -/
def caseName? (p : List Step) (e : Edit) : Option String :=
  if p.map Step.key = e.path.map Step.key then e.act.caseName? else none

end Edit

def editAll (es : List Edit) (s : Scope) : Scope := es.foldl (fun s e => e.run s) s

/-- The number of test cases that edits create on their way. -/
def creations : List Edit → Scope → Nat
  | [], _ => 0
  | e :: es, s => (if e.creates s then 1 else 0) + creations es (e.run s)

/-! ## One act -/

namespace Act

theorem scopes_run (a : Act) (s : Scope) : (a.run s).scopes = s.scopes := by
  cases a with
  | visit v hv => exact hv.scopes s
  | onCase name g hg => rfl

theorem step_run (a : Act) (s : Scope) : (a.run s).step = s.step := by
  cases a with
  | visit v hv =>
    show Step.mk (v s).kind (v s).name = _
    rw [hv.kind, hv.name]
    rfl
  | onCase name g hg => rfl

theorem key_run (a : Act) (s : Scope) : (a.run s).key = s.key := congrArg Step.key (a.step_run s)

theorem names_run (a : Act) (s : Scope) :
    (a.run s).names = a.caseName?.elim s.names (note foldAscii s.names) := by
  cases a with
  | visit v hv => exact congrArg (List.map TestCase.name) (hv.cases s)
  | onCase name g hg => exact Scope.names_alterCase name hg s

end Act

/-! ## One edit -/

namespace Edit

theorem find?_run (e : Edit) (p : List Step) (s : Scope) :
    (e.run s).find? p =
      if e.Through p then
        some ((Scope.arrive (e.path.take p.length) s).alter (e.path.drop p.length) e.act.run)
      else s.find? p :=
  Scope.find?_alter e.act.key_run e.act.scopes_run e.path p s

theorem caseCount_run (e : Edit) (s : Scope) :
    (e.run s).caseCount = s.caseCount + if e.creates s then 1 else 0 := by
  refine Scope.caseCount_alter e.path s ?_
  rw [creates]
  cases hact : e.act with
  | visit v hv => exact hv.caseCount _
  | onCase name g hg => exact Scope.caseCount_alterCase name g _

theorem tidy_run (e : Edit) {s : Scope} (h : s.Tidy) : (e.run s).Tidy := by
  exact h.descend (fun _ => Scope.visit_of_mem_map_id) e.act.key_run e.act.scopes_run

end Edit

/-! ## Children and test cases by their place -/

namespace Scope

def stepsAt (p : List Step) (s : Scope) : List Step := (s.find? p).elim [] steps

def namesAt (p : List Step) (s : Scope) : List String := (s.find? p).elim [] names

theorem steps_arrive {p q : List Step} (h : p.map Step.key = q.map Step.key) (s : Scope) :
    (arrive q s).steps = s.stepsAt p := by
  rw [arrive_eq q ⟨.segment, ""⟩, ← find?_congr h, stepsAt]
  cases s.find? p <;> rfl

theorem names_arrive {p q : List Step} (h : p.map Step.key = q.map Step.key) (s : Scope) :
    (arrive q s).names = s.namesAt p := by
  rw [arrive_eq q ⟨.segment, ""⟩, ← find?_congr h, namesAt]
  cases s.find? p <;> rfl

theorem case?_arrive {p q : List Step} (h : p.map Step.key = q.map Step.key) (name : String)
    (s : Scope) : (arrive q s).cases.find? (TestCase.isNamed name) = s.case? p name := by
  rw [arrive_eq q ⟨.segment, ""⟩, ← find?_congr h, case?]
  cases s.find? p <;> rfl

theorem isSome_case?_iff (p : List Step) (name : String) (s : Scope) :
    (s.case? p name).isSome ↔ foldAscii name ∈ (s.namesAt p).map foldAscii := by
  rw [case?, namesAt, TestCase.isNamed_eq]
  cases s.find? p with
  | none => simp
  | some t => simp [names]

end Scope

namespace Edit

variable {e : Edit} {p : List Step}

theorem through_of_eq (h : p.map Step.key = e.path.map Step.key) : e.Through p :=
  ⟨[], (List.append_nil _).trans h⟩

theorem Through.keys (h : e.Through p) :
    p.map Step.key = (e.path.take p.length).map Step.key := by
  have htake := List.prefix_iff_eq_take.1 h
  rwa [List.length_map, ← List.map_take] at htake

theorem stepsAt_run (e : Edit) (p : List Step) (s : Scope) :
    (e.run s).stepsAt p = (e.step? p).elim (s.stepsAt p) (note Step.key (s.stepsAt p)) := by
  rw [Scope.stepsAt, find?_run, step?]
  by_cases hp : e.Through p
  · rw [if_pos hp, if_pos hp, Option.elim_some, Scope.steps_alter e.act.step_run e.act.scopes_run,
      Scope.steps_arrive hp.keys, List.head?_drop]
  · rw [if_neg hp, if_neg hp]
    rfl

theorem take_of_eq (h : p.map Step.key = e.path.map Step.key) :
    e.path.take p.length = e.path ∧ e.path.drop p.length = [] := by
  have hlength : p.length = e.path.length := by simpa using congrArg List.length h
  rw [hlength]
  exact ⟨List.take_length, List.drop_length⟩

theorem Through.drop_eq_cons (h : e.Through p) (hne : p.map Step.key ≠ e.path.map Step.key) :
    ∃ a rest, e.path.drop p.length = a :: rest := by
  cases hdrop : e.path.drop p.length with
  | nil =>
    have htake := List.take_append_drop p.length e.path
    rw [hdrop, List.append_nil] at htake
    exact absurd (h.keys.trans (by rw [htake])) hne
  | cons a rest => exact ⟨a, rest, rfl⟩

theorem find?_run_of_eq (h : p.map Step.key = e.path.map Step.key) (s : Scope) :
    (e.run s).find? p = some (e.act.run (Scope.arrive e.path s)) := by
  obtain ⟨htake, hdrop⟩ := take_of_eq h
  rw [find?_run, if_pos (through_of_eq h), htake, hdrop]
  rfl

theorem namesAt_run (e : Edit) (p : List Step) (s : Scope) :
    (e.run s).namesAt p = (e.caseName? p).elim (s.namesAt p) (note foldAscii (s.namesAt p)) := by
  rw [Scope.namesAt, caseName?]
  by_cases hkeys : p.map Step.key = e.path.map Step.key
  · rw [find?_run_of_eq hkeys, if_pos hkeys, ← Scope.names_arrive hkeys]
    exact e.act.names_run _
  · rw [find?_run, if_neg hkeys]
    by_cases hp : e.Through p
    · obtain ⟨a, rest, hdrop⟩ := hp.drop_eq_cons hkeys
      rw [if_pos hp, hdrop]
      exact Scope.names_arrive hp.keys s
    · rw [if_neg hp]
      rfl

theorem isSome_find?_run (e : Edit) (p : List Step) (s : Scope) :
    ((e.run s).find? p).isSome ↔ (s.find? p).isSome ∨ e.Through p := by
  rw [find?_run]
  by_cases hp : e.Through p
  · simp [hp]
  · simp [hp]

end Edit

/-! ## Many edits -/

section

variable (es : List Edit) (s : Scope)

/-- Where every edit notes something in a list, the list keeps what was noted first. -/
theorem noted_editAll {α κ : Type} [DecidableEq κ] {key : α → κ} {view : Scope → List α}
    {news : Edit → Option α}
    (h : ∀ e s, view (e.run s) = (news e).elim (view s) (note key (view s))) :
    view (editAll es s) = (es.filterMap news).foldl (note key) (view s) := by
  induction es generalizing s with
  | nil => rfl
  | cons e rest ih =>
    show view (editAll rest (e.run s)) = _
    rw [ih, h, List.filterMap_cons]
    cases news e <;> rfl

theorem isSome_find?_editAll (p : List Step) :
    ((editAll es s).find? p).isSome ↔ (s.find? p).isSome ∨ ∃ e ∈ es, e.Through p := by
  induction es generalizing s with
  | nil => simp [editAll]
  | cons e rest ih =>
    show ((editAll rest (e.run s)).find? p).isSome ↔ _
    rw [ih, e.isSome_find?_run, or_assoc]
    simp

theorem caseCount_editAll : (editAll es s).caseCount = s.caseCount + creations es s := by
  induction es generalizing s with
  | nil => rfl
  | cons e rest ih =>
    show (editAll rest (e.run s)).caseCount = _
    rw [ih, e.caseCount_run, creations, Nat.add_assoc]

theorem step_editAll : (editAll es s).step = s.step := by
  induction es generalizing s with
  | nil => rfl
  | cons e rest ih => exact (ih (e.run s)).trans (Scope.step_alter e.act.step_run e.path s)

theorem tidy_editAll (h : s.Tidy) : (editAll es s).Tidy := by
  induction es generalizing s with
  | nil => exact h
  | cons e rest ih => exact ih _ (e.tidy_run h)

end

/-! ## What stands in a tree -/

namespace Scope

/-- A scope with more in it: no child and no test case is gone, renamed or in another place. -/
structure Extends (s s' : Scope) : Prop where
  step : s'.step = s.step
  steps : s.steps <+: s'.steps
  names : s.names <+: s'.names

theorem Extends.refl (s : Scope) : Extends s s :=
  ⟨rfl, List.prefix_refl _, List.prefix_refl _⟩

theorem Extends.trans {s s' s'' : Scope} (h : Extends s s') (h' : Extends s' s'') :
    Extends s s'' :=
  ⟨h'.step.trans h.step, h.steps.trans h'.steps, h.names.trans h'.names⟩

theorem extends_alter (a : Act) (path : List Step) (s : Scope) :
    Extends s (s.alter path a.run) where
  step := step_alter a.step_run path s
  steps := by
    rw [steps_alter a.step_run a.scopes_run]
    cases path with
    | nil => exact List.prefix_refl _
    | cons b rest => exact prefix_note Step.key _ b
  names := by
    cases path with
    | nil =>
      show s.names <+: (a.run s).names
      rw [a.names_run]
      cases a.caseName? with
      | none => exact List.prefix_refl _
      | some name => exact prefix_note foldAscii _ name
    | cons b rest => exact List.prefix_refl _

theorem Leads.editAll {s t : Scope} {path : List Step} (h : s.Leads path t) (es : List Edit) :
    ∃ t', (editAll es s).Leads path t' ∧ t.Extends t' := by
  induction es generalizing s t with
  | nil => exact ⟨t, h, .refl t⟩
  | cons e rest ih =>
    have hname {s s' : Scope} (hs : Extends s s') : s'.kind = s.kind ∧ s'.name = s.name :=
      ⟨congrArg Step.kind hs.step, congrArg Step.name hs.step⟩
    obtain ⟨t', ht', hkept⟩ :=
      h.alter Extends.refl hname e.act.scopes_run (extends_alter e.act) e.path
    obtain ⟨t'', ht'', hkept'⟩ := ih ht'
    exact ⟨t'', ht'', hkept.trans hkept'⟩

/-- What the tree `t` shows of the edits it grew by, from an empty scope. -/
structure Grown (first : Step) (es : List Edit) (t : Scope) : Prop where
  root : t.step = first
  /-- A scope is found where an edit went through, and nowhere else. -/
  found : ∀ p, (t.find? p).isSome ↔ p = [] ∨ ∃ e ∈ es, e.Through p
  children : ∀ p s, t.find? p = some s → s.steps = firsts Step.key (es.filterMap (Edit.step? p))
  cases : ∀ p s, t.find? p = some s → s.names = firsts foldAscii (es.filterMap (Edit.caseName? p))
  /-- A test case is found where an edit went to it, and nowhere else. -/
  caseFound : ∀ p name, (t.case? p name).isSome ↔
    ∃ e ∈ es, ∃ name', e.caseName? p = some name' ∧ foldAscii name' = foldAscii name
  /-- What stands in the tree is found, and has no two children or test cases of one key. -/
  standing : ∀ p s, t.Leads p s → t.find? p = some s ∧ (s.steps.map Step.key).Nodup ∧
    (s.names.map foldAscii).Nodup
  count : t.caseCount = creations es (ofStep first)

theorem grown (first : Step) (es : List Edit) : Grown first es (editAll es (ofStep first)) := by
  have hsteps (p : List Step) : (editAll es (ofStep first)).stepsAt p =
      firsts Step.key (es.filterMap (Edit.step? p)) := by
    rw [noted_editAll es _ fun e s => e.stepsAt_run p s, firsts]
    cases p <;> rfl
  have hnames (p : List Step) : (editAll es (ofStep first)).namesAt p =
      firsts foldAscii (es.filterMap (Edit.caseName? p)) := by
    rw [noted_editAll es _ fun e s => e.namesAt_run p s, firsts]
    cases p <;> rfl
  have hchildren (p : List Step) (s : Scope) (hs : (editAll es (ofStep first)).find? p = some s) :
      s.steps = firsts Step.key (es.filterMap (Edit.step? p)) := by
    rw [← hsteps, stepsAt, hs]
    rfl
  have hcases (p : List Step) (s : Scope) (hs : (editAll es (ofStep first)).find? p = some s) :
      s.names = firsts foldAscii (es.filterMap (Edit.caseName? p)) := by
    rw [← hnames, namesAt, hs]
    rfl
  refine ⟨step_editAll es _, fun p => ?_, hchildren, hcases, fun p name => ?_, fun p s hs => ?_, ?_⟩
  · rw [isSome_find?_editAll]
    cases p <;> simp [find?, ofStep]
  · rw [isSome_case?_iff, hnames, firsts, mem_map_foldl_note]
    simp only [List.map_nil, List.not_mem_nil, false_or, List.mem_filterMap]
    constructor
    · rintro ⟨name', ⟨e, he, hname'⟩, hkey⟩
      exact ⟨e, he, name', hname', hkey⟩
    · rintro ⟨e, he, name', hname', hkey⟩
      exact ⟨name', ⟨e, he, hname'⟩, hkey⟩
  · have hfound := hs.find?_eq (tidy_editAll es _ (Tidy.ofStep first))
    rw [hchildren p s hfound, hcases p s hfound]
    exact ⟨hfound, nodup_firsts Step.key _, nodup_firsts foldAscii _⟩
  · rw [caseCount_editAll]
    exact Nat.zero_add _

end Scope

/-! ## What an edit reaches and leaves -/

/-- The change that an act makes to the test case that it goes to. -/
def Act.change : Act → TestCase → TestCase
  | visit _ _ => id
  | onCase _ g _ => g

namespace Edit

theorem case?_run_visit {e : Edit} {v : Scope → Scope} {hv : Scope.Visit v}
    (hact : e.act = .visit v hv) (p : List Step) (name : String) (s : Scope) :
    (e.run s).case? p name = s.case? p name := by
  rw [Scope.case?, find?_run]
  by_cases hp : e.Through p
  · rw [if_pos hp, Option.bind_some, ← Scope.case?_arrive hp.keys, hact]
    cases e.path.drop p.length with
    | nil => exact congrArg (List.find? _) (hv.cases _)
    | cons a rest => rfl
  · rw [if_neg hp]
    rfl

theorem case?_run (e : Edit) (p : List Step) (name : String) (s : Scope) :
    (e.run s).case? p name =
      match e.caseName? p with
      | none => s.case? p name
      | some name' =>
        if foldAscii name' = foldAscii name then
          some (e.act.change ((s.case? p name).getD (.named name')))
        else s.case? p name := by
  rw [caseName?]
  cases hact : e.act with
  | visit v hv =>
    rw [case?_run_visit hact]
    simp [Act.caseName?]
  | onCase name' g hg =>
    have hrun : e.run s = s.descend (e.path.map (·, id)) (Scope.alterCase name' g) := by
      rw [run, hact]
      rfl
    rw [hrun, Scope.case?_descend (fun _ => Scope.visit_of_mem_map_id) hg]
    by_cases hkeys : p.map Step.key = e.path.map Step.key
    · simp [hkeys, Function.comp_def, Act.caseName?, Act.change]
    · have hne : ¬ e.path.map Step.key = p.map Step.key := fun h => hkeys h.symm
      simp [hkeys, hne, Function.comp_def]

theorem creates_iff {e : Edit} {p : List Step} {name name' : String}
    (he : e.caseName? p = some name') (hname : foldAscii name' = foldAscii name) (s : Scope) :
    e.creates s ↔ s.case? p name = none := by
  rw [caseName?] at he
  split at he
  · rename_i hkeys
    have hfits : TestCase.isNamed name = TestCase.isNamed name' := by
      rw [TestCase.isNamed_eq, TestCase.isNamed_eq, hname]
    rw [creates, he, ← Scope.case?_arrive hkeys, hfits, Option.isNone_iff_eq_none]
  · cases he

/-- What an edit reaches in a tree, by whatever spelling it is looked up, and what it leaves. -/
structure Effect (e : Edit) (t : Scope) : Prop where
  /-- The edit arrives at the scope that is found, or at a new one if there is none. -/
  arrives : ∀ p, p.map Step.key = e.path.map Step.key →
    Scope.arrive e.path t = (t.find? p).getD (.ofStep (e.path.getLastD t.step)) ∧
      (e.run t).find? p = some (e.act.run (Scope.arrive e.path t))
  /-- It goes to the test case that is found, or to a new one if there is none. -/
  goes : ∀ p name name', e.caseName? p = some name' → foldAscii name' = foldAscii name →
    (e.creates t ↔ t.case? p name = none) ∧
      (e.run t).case? p name = some (e.act.change ((t.case? p name).getD (.named name')))
  /-- A scope that it only passes gets no more than a child. -/
  passes : ∀ p s, e.Through p → p.map Step.key ≠ e.path.map Step.key → t.find? p = some s →
    ∃ scopes, (e.run t).find? p = some { s with scopes := scopes }
  leaves : ∀ p, ¬ e.Through p → (e.run t).find? p = t.find? p
  leavesCases : ∀ p name,
    (∀ name', e.caseName? p = some name' → foldAscii name' ≠ foldAscii name) →
      (e.run t).case? p name = t.case? p name

theorem effect (e : Edit) (t : Scope) : e.Effect t := by
  refine ⟨fun p hp => ⟨?_, find?_run_of_eq hp t⟩, fun p name name' he hname => ⟨?_, ?_⟩,
    fun p s hp hne hs => ?_, fun p hp => ?_, fun p name hother => ?_⟩
  · rw [Scope.find?_congr hp]
    exact Scope.arrive_eq e.path t.step t
  · exact creates_iff he hname t
  · simp only [case?_run, he, if_pos hname]
  · obtain ⟨a, rest, hdrop⟩ := hp.drop_eq_cons hne
    rw [find?_run, if_pos hp, hdrop, Scope.arrive_of_find? hp.keys hs]
    exact ⟨_, rfl⟩
  · rw [find?_run, if_neg hp]
  · rw [case?_run]
    cases hname : e.caseName? p with
    | none => rfl
    | some name' => exact if_neg (hother name' hname)

end Edit

/-! ## Growing -/

theorem Scope.grown_editAll (first : Step) (es : List Edit) :
    let t := editAll es (.ofStep first)
    t.Grown first es ∧ (∀ e : Edit, e.Effect t) ∧
      ∀ more p s, t.Leads p s → ∃ s', (editAll more t).Leads p s' ∧ s.Extends s' :=
  ⟨Scope.grown first es, fun e => e.effect _, fun more _ _ h => h.editAll more⟩

example :
    let firefox : List Step := [⟨.fixture, "Firefox"⟩]
    let upper : List Step := [⟨.fixture, "FIREFOX"⟩]
    let ran : Flags := ⟨some true, none, none⟩
    let t := editAll [.scope firefox, .testCase upper "S.f.Login", .touchScope upper ran 5,
      .touchCase firefox "s.F.login" ran 5, .addProperty upper "S.F.LOGIN" "browser" "87",
      .scope [⟨.segment, "firefox"⟩]] (.ofStep ⟨.segment, "S"⟩)
    t.steps = [⟨.fixture, "Firefox"⟩, ⟨.segment, "firefox"⟩] ∧ t.namesAt upper = ["S.f.Login"] := by
  decide +kernel

end Selenese.Report
