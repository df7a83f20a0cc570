import Selenese.Proofs.Report.Layout

/-!
# Selenese.Proofs.Report.Written

The elements that reports are written as.

* `reportElement`: the element of a report, with an element for each scope and each test case.
* `laid_testCase`, `laid_scope`: what is written of a test case or a scope lays out its element.
  `toXml_eq` and `laid_content`: so is a report written, after a declaration.
* `parse_toXml`: a reader of markup finds the element of a report.
-/

namespace Selenese.Report

namespace Xml

/-! ## The element of a report -/

def flagPairs (f : Flags) : List (String × String) :=
  (f.executed.map fun b => ("executed", boolText b)).toList ++
    (f.verdict.map fun v => ("result", v.name)).toList ++
    (f.success.map fun b => ("success", boolText b)).toList

def timePairs (time : Option Nat) : List (String × String) :=
  (time.map fun t => ("time", seconds t)).toList

def propertyElement (p : String × String) : Element :=
  ⟨"property", [("name", p.1), ("value", p.2)], "", []⟩

def propertiesElements : List (String × String) → List Element
  | [] => []
  | ps => [⟨"properties", [], "", ps.map propertyElement⟩]

def failureElement (f : FailureDetail) : Element :=
  ⟨"failure", [], "", [⟨"message", [], f.message, []⟩, ⟨"stack-trace", [], f.trace, []⟩]⟩

def reasonElement (reason : String) : Element :=
  ⟨"reason", [], "", [⟨"message", [], reason, []⟩]⟩

def outcomeElements (c : TestCase) : List Element :=
  match c.failure, c.reason with
  | some f, _ => [failureElement f]
  | none, some r => [reasonElement r]
  | none, none => []

def caseElement (c : TestCase) : Element :=
  ⟨"test-case", ("name", c.name) :: (flagPairs c.flags ++ timePairs c.time ++
    [("asserts", toString c.asserts)]), "", propertiesElements c.properties ++ outcomeElements c⟩

mutual

def scopeElement : Scope → Element
  | ⟨kind, name, flags, time, inner, cases⟩ =>
    ⟨"test-suite", ("type", kind.name) :: ("name", name) :: (flagPairs flags ++ timePairs time), "",
      [⟨"results", [], "", scopeElements inner ++ cases.map caseElement⟩]⟩

def scopeElements : List Scope → List Element
  | [] => []
  | s :: r => scopeElement s :: scopeElements r

end

def environmentPairs (e : Environment) : List (String × String) :=
  [("nunit-version", e.formatVersion), ("clr-version", e.runtime), ("os-version", e.system),
    ("platform", e.platform), ("cwd", e.folder), ("machine-name", e.machine), ("user", e.user),
    ("user-domain", e.domain)]

def culturePairs (e : Environment) : List (String × String) :=
  [("current-culture", e.culture), ("current-uiculture", e.culture)]

def environmentElements (e : Environment) : List Element :=
  [⟨"environment", environmentPairs e, "", []⟩,
    ⟨"culture-info", culturePairs e, "", []⟩]

def reportPairs (r : Report) : List (String × String) :=
  [("name", r.name), ("total", toString r.tally.total), ("errors", toString r.tally.errors),
    ("failures", toString r.tally.failures), ("not-run", toString r.tally.notRun),
    ("inconclusive", toString r.tally.inconclusive), ("ignored", toString r.tally.ignored),
    ("skipped", "0"), ("invalid", toString r.tally.invalid), ("date", r.created.date),
    ("time", r.created.time)]

def reportElement (r : Report) : Element :=
  ⟨"test-results", reportPairs r, "",
    environmentElements r.environment ++ (r.root.map scopeElement).toList⟩

/-! ## A report is written as its element -/

theorem flagAttrs_eq (f : Flags) : flagAttrs f = attrs (flagPairs f) := by
  obtain ⟨executed, verdict, success⟩ := f
  cases executed <;> cases verdict <;> cases success <;>
    simp [flagAttrs, flagPairs, attrs, String.append_assoc]

theorem timeAttr_eq (time : Option Nat) : timeAttr time = attrs (timePairs time) := by
  cases time <;> simp [timeAttr, timePairs, attrs]

theorem laid_properties (depth : Nat) (ps : List (String × String)) :
    Laid (properties depth ps) (propertiesElements ps) := by
  cases ps with
  | nil => exact .nil
  | cons p r =>
    refine .block (by decide) (.join (p :: r) fun q _ => ?_) depth
    have htext : "<property" ++ attr "name" q.1 ++ attr "value" q.2 ++ " />" =
        "<" ++ "property" ++ attrs [("name", q.1), ("value", q.2)] ++ " />" := by
      simp only [attrs, String.append_empty, String.append_assoc]
      rfl
    rw [property, htext]
    refine .leaf (by decide) ?_ (depth + 1)
    exact (by decide : areKeys ["name", "value"] = true)

theorem laid_outcome (depth : Nat) (c : TestCase) : Laid (outcome depth c) (outcomeElements c) := by
  rw [outcome, outcomeElements]
  cases c.failure with
  | some f =>
    exact .block (by decide) (.append (.text (by decide) f.message _)
      (.text (by decide) f.trace _)) depth
  | none =>
    cases c.reason with
    | some r => exact .block (by decide) (.text (by decide) r _) depth
    | none => exact .nil

theorem keys_toList {α : Type} (key : String) (value : α → String) (o : Option α) :
    ((o.map fun a => (key, value a)).toList.map Prod.fst).Sublist [key] := by
  cases o with
  | none => exact List.nil_sublist _
  | some a => exact List.Sublist.refl _

/-- The keys of flags and times are among four. -/
theorem keys_flagPairs (f : Flags) (time : Option Nat) :
    ((flagPairs f ++ timePairs time).map Prod.fst).Sublist
      ["executed", "result", "success", "time"] := by
  simp only [flagPairs, timePairs, List.map_append]
  exact (((keys_toList "executed" boolText _).append (keys_toList "result" Verdict.name _)).append
    (keys_toList "success" boolText _)).append (keys_toList "time" seconds _)

theorem areKeys_testCase (c : TestCase) :
    areKeys ((("name", c.name) :: (flagPairs c.flags ++ timePairs c.time ++
      [("asserts", toString c.asserts)])).map Prod.fst) = true := by
  rw [List.map_cons, List.map_append]
  exact areKeys_sublist (((keys_flagPairs c.flags c.time).append (.refl ["asserts"])).cons_cons "name")
    (by decide)

theorem areKeys_scope (kind : ScopeKind) (name : String) (flags : Flags) (time : Option Nat) :
    areKeys ((("type", kind.name) :: ("name", name) :: (flagPairs flags ++ timePairs time)).map
      Prod.fst) = true := by
  rw [List.map_cons, List.map_cons]
  exact areKeys_sublist (((keys_flagPairs flags time).cons_cons "name").cons_cons "type") (by decide)

theorem laid_testCase (depth : Nat) (c : TestCase) : Laid (testCase depth c) [caseElement c] := by
  let pairs := ("name", c.name) :: (flagPairs c.flags ++ timePairs c.time ++
    [("asserts", toString c.asserts)])
  have hstart : "<test-case" ++ attr "name" c.name ++ flagAttrs c.flags ++ timeAttr c.time ++
      attr "asserts" (toString c.asserts) = "<" ++ "test-case" ++ attrs pairs := by
    simp only [pairs, attrs, attrs_append, flagAttrs_eq, timeAttr_eq, String.append_empty,
      String.append_assoc]
    rfl
  rw [testCase, hstart]
  split
  · rename_i hempty
    obtain ⟨⟨hproperties, hfailure⟩, hreason⟩ :
        (c.properties = [] ∧ c.failure = none) ∧ c.reason = none := by simpa using hempty
    have helement : caseElement c = ⟨"test-case", pairs, "", []⟩ := by
      rw [caseElement, outcomeElements, hproperties, hfailure, hreason]
      rfl
    rw [helement]
    exact .leaf (by decide) (areKeys_testCase c) depth
  · have hcontent := (laid_properties (depth + 1) c.properties).append
      (laid_outcome (depth + 1) c)
    have hall := Laid.enclosed (by decide : isTagName "test-case" = true) (areKeys_testCase c)
      hcontent depth
    rw [← String.append_assoc] at hall
    exact hall

mutual

theorem laid_scope (depth : Nat) : ∀ s : Scope, Laid (scope depth s) [scopeElement s]
  | ⟨kind, name, flags, time, inner, cases⟩ => by
    let pairs := ("type", kind.name) :: ("name", name) :: (flagPairs flags ++ timePairs time)
    have hstart : "<test-suite" ++ attr "type" kind.name ++ attr "name" name ++ flagAttrs flags ++
        timeAttr time ++ ">" = "<" ++ "test-suite" ++ attrs pairs ++ ">" := by
      simp only [pairs, attrs, attrs_append, flagAttrs_eq, timeAttr_eq, String.append_assoc]
      rfl
    -- the members of a scope are smaller trees
    have hinner := (laid_scopes (depth + 2) inner).append
      (.join cases fun c _ => laid_testCase (depth + 2) c)
    have hresults := Laid.block (by decide : isTagName "results" = true) hinner (depth + 1)
    rw [scope, hstart]
    exact .enclosed (by decide) (areKeys_scope kind name flags time) hresults depth

theorem laid_scopes (depth : Nat) : ∀ l : List Scope, Laid (scopes depth l) (scopeElements l)
  | [] => .nil
  | s :: r => (laid_scope depth s).append (laid_scopes depth r)

end

theorem laid_environment (e : Environment) : Laid (environment e) (environmentElements e) := by
  have hhost := Laid.leaf (by decide : isTagName "environment" = true)
    (show areKeys ((environmentPairs e).map Prod.fst) = true from
      (by decide : areKeys ["nunit-version", "clr-version", "os-version", "platform", "cwd",
        "machine-name", "user", "user-domain"] = true)) 1
  have hculture := Laid.leaf (by decide : isTagName "culture-info" = true)
    (show areKeys ((culturePairs e).map Prod.fst) = true from
      (by decide : areKeys ["current-culture", "current-uiculture"] = true)) 1
  have hboth := hhost.append hculture
  simp only [environmentPairs, culturePairs, attrs, String.append_empty, String.append_assoc]
    at hboth
  simp only [environment, String.append_assoc]
  exact hboth

theorem header_eq (r : Report) :
    header r = "<" ++ "test-results" ++ attrs (reportPairs r) ++ ">" := by
  have htag : "<test-results" = "<" ++ "test-results" := rfl
  unfold header
  dsimp only
  rw [htag]
  simp only [reportPairs, attrs, String.append_empty, String.append_assoc]

/-- What is written between the tags of a report. -/
def content (r : Report) : String := environment r.environment ++ (r.root.map (scope 1)).getD ""

theorem laid_content (r : Report) : Laid (content r) (reportElement r).children := by
  have hroot : Laid ((r.root.map (scope 1)).getD "") (r.root.map scopeElement).toList := by
    cases r.root with
    | none => exact .nil
    | some s => exact laid_scope 1 s
  exact (laid_environment r.environment).append hroot

theorem toXml_eq (r : Report) :
    r.toXml = line 0 declaration ++
      (line 0 ("<" ++ "test-results" ++ attrs (reportPairs r) ++ ">") ++ content r ++
        line 0 ("</" ++ "test-results" ++ ">")) := by
  have hend : "</" ++ "test-results" ++ ">" = "</test-results>" := rfl
  rw [toXml, header_eq, hend, content, declaration]
  simp only [String.append_assoc]

theorem areKeys_report (r : Report) : areKeys ((reportPairs r).map Prod.fst) = true :=
  (by decide : areKeys ["name", "total", "errors", "failures", "not-run", "inconclusive", "ignored",
    "skipped", "invalid", "date", "time"] = true)

theorem parse_toXml (r : Report) : parse r.toXml = some [reportElement r] := by
  have hreport := (Laid.enclosed (by decide : isTagName "test-results" = true) (areKeys_report r)
    (laid_content r) 0).reads
  have hall := ((moves_declaration [.start []]).line 0).append (hreport (.start []) [])
  rw [Moves, ← toXml_eq] at hall
  rw [parse, hall]
  rfl

end Xml

end Selenese.Report
