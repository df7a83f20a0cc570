import Selenese.Text.Affix

/-!
# Selenese.Report.Tree

The tree of test results: scopes that hold scopes and test cases.

* Children are found by kind and name, in any ASCII case.
* `Scope.descend` and `Scope.alterCase` go to a child and create it if it is missing, in the last place and under
  the spelling that is asked for.
* `Scope.find?` and `Scope.case?` look children up and create nothing.
-/

namespace Selenese.Report

inductive ScopeKind where
  /-- A segment of a suite path. -/
  | segment
  /-- What a suite is run with. -/
  | fixture
deriving DecidableEq, Repr

def ScopeKind.name : ScopeKind → String
  | .segment => "Namespace"
  | .fixture => "TestFixture"

inductive Verdict where
  | success
  | failed
  | inconclusive
  | ignored
  | invalid
deriving DecidableEq, Repr

def Verdict.name : Verdict → String
  | .success => "Success"
  | .failed => "Failed"
  | .inconclusive => "Inconclusive"
  | .ignored => "Ignored"
  | .invalid => "Invalid"

/-- What is known of a test or a scope; each flag may be unset. -/
structure Flags where
  executed : Option Bool
  verdict : Option Verdict
  success : Option Bool
deriving DecidableEq, Repr

namespace Flags

def unset : Flags := ⟨none, none, none⟩

/-- Overwrites the flags that an update sets. -/
def merge (old update : Flags) : Flags :=
  ⟨update.executed <|> old.executed, update.verdict <|> old.verdict, update.success <|> old.success⟩

end Flags

structure FailureDetail where
  message : String
  /-- The line that failed, or the causes of the error. -/
  trace : String
deriving DecidableEq, Repr

structure TestCase where
  name : String
  flags : Flags
  /-- Microseconds since the test began, at its last update. -/
  time : Option Nat
  /-- Passed assertions, a count taken to stay within 32 bits. -/
  asserts : Nat
  failure : Option FailureDetail
  reason : Option String
  properties : List (String × String)
deriving DecidableEq, Repr

namespace TestCase

def named (name : String) : TestCase := ⟨name, .unset, none, 0, none, none, []⟩

def touch (update : Flags) (elapsed : Nat) (c : TestCase) : TestCase :=
  { c with flags := c.flags.merge update, time := some elapsed }

def addProperty (name value : String) (c : TestCase) : TestCase :=
  { c with properties := c.properties ++ [(name, value)] }

/-- The first property of a name. -/
def property? (c : TestCase) (name : String) : Option String := c.properties.lookup name

def isNamed (name : String) (c : TestCase) : Bool := Text.sameIgnoringCase c.name name

end TestCase

structure Scope where
  kind : ScopeKind
  name : String
  flags : Flags
  /-- Microseconds since the scope was first updated, at its last update. -/
  time : Option Nat
  scopes : List Scope
  cases : List TestCase
deriving Repr

/-- Changes the first member that fits, or adds a changed new one at the end. -/
def alterOrAdd {α : Type} (fits : α → Bool) (new : α) (f : α → α) : List α → List α
  | [] => [f new]
  | a :: r => if fits a then f a :: r else a :: alterOrAdd fits new f r

/-- A step from a scope to a child. -/
structure Step where
  kind : ScopeKind
  name : String
deriving DecidableEq, Repr

namespace Scope

def ofStep (s : Step) : Scope := ⟨s.kind, s.name, .unset, none, [], []⟩

def touch (update : Flags) (elapsed : Nat) (s : Scope) : Scope :=
  { s with flags := s.flags.merge update, time := some elapsed }

def fits (step : Step) (s : Scope) : Bool :=
  s.kind == step.kind && Text.sameIgnoringCase s.name step.name

/-- Changes the child of a step. -/
def alterChild (step : Step) (f : Scope → Scope) (s : Scope) : Scope :=
  { s with scopes := alterOrAdd (fits step) (ofStep step) f s.scopes }

/-- Follows a path, changes each scope that a step leads to, and then the last one once more. -/
def descend : List (Step × (Scope → Scope)) → (Scope → Scope) → Scope → Scope
  | [], f => f
  | (step, visit) :: path, f => alterChild step fun s => descend path f (visit s)

/-- Changes the scope at the end of a path. -/
def alter (path : List Step) (f : Scope → Scope) : Scope → Scope := descend (path.map (·, id)) f

/-- Changes a test case of this scope. -/
def alterCase (name : String) (f : TestCase → TestCase) (s : Scope) : Scope :=
  { s with cases := alterOrAdd (TestCase.isNamed name) (TestCase.named name) f s.cases }

def find? : List Step → Scope → Option Scope
  | [], s => some s
  | step :: path, s => (s.scopes.find? (fits step)).bind (find? path)

def case? (path : List Step) (name : String) (s : Scope) : Option TestCase :=
  (s.find? path).bind fun s => s.cases.find? (TestCase.isNamed name)

mutual

/-- The number of test cases in this scope and all below. -/
def caseCount : Scope → Nat
  | ⟨_, _, _, _, scopes, cases⟩ => cases.length + caseCounts scopes

def caseCounts : List Scope → Nat
  | [] => 0
  | s :: r => caseCount s + caseCounts r

end

end Scope

end Selenese.Report
