import Selenese.Proofs.Within
import Selenese.Settings.Overrides

/-!
# Selenese.Proofs.Settings.Overrides

Settings of a file with values of a command line in their place.

* `Settings.Fit s`: the settings can drive a run. `Settings.validate_eq_ok`: these are the settings that
  pass.
* `Settings.Replaced o s c`: `c` holds the values that are given, and those of `s` elsewhere.
* `Settings.assemble_replaced`: a file gives what comes out of the replacement if that is fit, and if the
  combinations that were replaced name fixtures too. Nothing else of replaced values matters.
* `Settings.assemble_refuses_replaced`: so a file without fixtures is refused, whatever takes their place.
-/

namespace Selenese.Settings

/-! ## Fit settings -/

/-- There are fixtures to run with, and each of them has a name. -/
def NameFixtures (combinations : List String) : Prop :=
  combinations ≠ [] ∧ ∀ n ∈ combinations, Text.allBlank n = false

structure Fit (s : Settings) : Prop where
  attempts : s.attempts ≠ 0
  combinations : NameFixtures s.combinations
  pageContainer : Text.allBlank s.pageContainer = false

theorem problem?_eq_none {s : Settings} : s.problem? = none ↔ s.Fit := by
  rw [problem?]
  by_cases hattempts : s.attempts = 0
  · simp only [hattempts, if_true, reduceCtorEq, false_iff]
    exact fun h => h.attempts hattempts
  by_cases hnone : s.combinations = []
  · simp only [hattempts, hnone, if_true, if_false, reduceCtorEq, false_iff]
    exact fun h => h.combinations.1 hnone
  rw [if_neg hattempts, if_neg hnone]
  cases hblank : s.combinations.find? Text.allBlank with
  | some n =>
    simp only [reduceCtorEq, false_iff]
    intro h
    have hn := h.combinations.2 n (List.mem_of_find?_eq_some hblank)
    rw [List.find?_some hblank] at hn
    cases hn
  | none =>
    have hnames : ∀ n ∈ s.combinations, Text.allBlank n = false := by
      simpa using List.find?_eq_none.1 hblank
    cases hpage : Text.allBlank s.pageContainer with
    | true =>
      simp only [if_true, reduceCtorEq, false_iff]
      intro h
      rw [h.pageContainer] at hpage
      cases hpage
    | false => exact ⟨fun _ => ⟨hattempts, ⟨hnone, hnames⟩, hpage⟩, fun _ => rfl⟩

theorem validate_eq_ok {s c : Settings} : s.validate = .ok c ↔ s.Fit ∧ c = s := by
  rw [validate, ← problem?_eq_none]
  cases s.problem? with
  | none => simp [eq_comm]
  | some p => simp

/-- Combinations that name fixtures are no problem, whichever they are. -/
theorem problem?_congr {s t : Settings} (hattempts : s.attempts = t.attempts)
    (hpage : s.pageContainer = t.pageContainer)
    (hnames : s.combinations = t.combinations ∨
      NameFixtures s.combinations ∧ NameFixtures t.combinations) :
    s.problem? = t.problem? := by
  have hfind {l : List String} (h : NameFixtures l) : l.find? Text.allBlank = none := by
    simpa using h.2
  rcases hnames with heq | ⟨hs, ht⟩
  · rw [problem?, problem?, hattempts, hpage, heq]
  · rw [problem?, problem?, hattempts, hpage, if_neg hs.1, if_neg ht.1, hfind hs, hfind ht]

/-! ## Values in the place of others -/

structure Replaced (o : Overrides) (s c : Settings) : Prop where
  baseUrl_given : ∀ u, o.baseUrl = some u → c.baseUrl = some u
  baseUrl_kept : o.baseUrl = none → c.baseUrl = s.baseUrl
  combinations_given : o.combinations ≠ [] → c.combinations = o.combinations
  combinations_kept : o.combinations = [] → c.combinations = s.combinations
  runName_given : ∀ n, o.runName = some n → c.runName = n
  runName_kept : o.runName = none → c.runName = s.runName
  interval : c.interval = s.interval
  attempts : c.attempts = s.attempts
  settle : c.settle = s.settle
  pageContainer : c.pageContainer = s.pageContainer

theorem replaced_override (o : Overrides) (s : Settings) : Replaced o s (s.override o) where
  baseUrl_given u h := by simp [override, h]
  baseUrl_kept h := by simp [override, h]
  combinations_given h := by simp [override, h]
  combinations_kept h := by simp [override, h]
  runName_given n h := by simp [override, h]
  runName_kept h := by simp [override, h]
  interval := rfl
  attempts := rfl
  settle := rfl
  pageContainer := rfl

theorem Replaced.eq_override {o : Overrides} {s c : Settings} (h : Replaced o s c) :
    c = s.override o := by
  have hbase : c.baseUrl = (s.override o).baseUrl := by
    cases hgiven : o.baseUrl with
    | none => simp [h.baseUrl_kept hgiven, override, hgiven]
    | some u => simp [h.baseUrl_given u hgiven, override, hgiven]
  have hcombinations : c.combinations = (s.override o).combinations := by
    by_cases hgiven : o.combinations = []
    · simp [h.combinations_kept hgiven, override, hgiven]
    · simp [h.combinations_given hgiven, override, hgiven]
  have hname : c.runName = (s.override o).runName := by
    cases hgiven : o.runName with
    | none => simp [h.runName_kept hgiven, override, hgiven]
    | some n => simp [h.runName_given n hgiven, override, hgiven]
  cases c
  cases hbase
  cases hcombinations
  cases hname
  cases h.interval
  cases h.attempts
  cases h.settle
  cases h.pageContainer
  rfl

/-- The values that stay are fit in both settings or in none. -/
theorem Replaced.fit_iff {o : Overrides} {s c : Settings} (h : Replaced o s c) (hc : c.Fit) :
    s.Fit ↔ (o.combinations ≠ [] → NameFixtures s.combinations) := by
  constructor
  · exact fun hs _ => hs.combinations
  · intro hnames
    refine ⟨h.attempts ▸ hc.attempts, ?_, h.pageContainer ▸ hc.pageContainer⟩
    by_cases hgiven : o.combinations = []
    · exact h.combinations_kept hgiven ▸ hc.combinations
    · exact hnames hgiven

/-! ## Settings of a file -/

section

variable {text : String} {s : Settings} (h : read text = .ok s)

include h

theorem assemble_eq (path : String) (o : Overrides) :
    assemble (some (path, .ok text)) o =
      match s.problem? with
      | some p => .error (.file path (.config p.message))
      | none =>
        match (s.override o).problem? with
        | some p => .error (.unfit (.config p.message))
        | none => .ok (s.override o) := by
  have hparse : ofFile (.ok text) = s.validate := by rw [ofFile, parse, h]
  have hassemble : assemble (some (path, .ok text)) o =
      (s.validate.mapError (Obstacle.file path)).bind fun t =>
        (t.override o).validate.mapError Obstacle.unfit := by
    rw [assemble, hparse]
    rfl
  rw [hassemble, validate]
  cases s.problem? with
  | some p => rfl
  | none =>
    show (s.override o).validate.mapError Obstacle.unfit = _
    rw [validate]
    cases (s.override o).problem? <;> rfl

theorem assemble_eq_ok (path : String) (o : Overrides) (c : Settings) :
    assemble (some (path, .ok text)) o = .ok c ↔ Replaced o s c ∧ s.Fit ∧ c.Fit := by
  rw [assemble_eq h, ← problem?_eq_none, ← problem?_eq_none]
  constructor
  · intro hok
    split at hok
    · cases hok
    · rename_i hs
      split at hok
      · cases hok
      · rename_i hc
        cases hok
        exact ⟨replaced_override o s, hs, hc⟩
  · rintro ⟨hreplaced, hs, hc⟩
    rw [hreplaced.eq_override] at hc ⊢
    rw [hs, hc]

/-- A file gives what comes out of the replacement if and only if that is fit and, where combinations are
replaced, those of the file name fixtures: a file has to be fit on its own before anything is replaced.
Two such files that differ in replaced values only give the same. -/
theorem assemble_replaced (path : String) (o : Overrides) :
    (∀ c, assemble (some (path, .ok text)) o = .ok c ↔
      Replaced o s c ∧ c.validate = .ok c ∧
        (o.combinations ≠ [] → NameFixtures s.combinations)) ∧
    ∀ text' s' c, read text' = .ok s' → Replaced o s c → Replaced o s' c →
      (o.combinations ≠ [] → NameFixtures s.combinations ∧ NameFixtures s'.combinations) →
      assemble (some (path, .ok text)) o = assemble (some (path, .ok text')) o := by
  constructor
  · intro c
    rw [assemble_eq_ok h, validate_eq_ok]
    constructor
    · rintro ⟨hreplaced, hs, hc⟩
      exact ⟨hreplaced, ⟨hc, rfl⟩, (hreplaced.fit_iff hc).1 hs⟩
    · rintro ⟨hreplaced, ⟨hc, -⟩, hnames⟩
      exact ⟨hreplaced, (hreplaced.fit_iff hc).2 hnames, hc⟩
  · intro text' s' c h' hs hs' hnames
    have hproblem : s.problem? = s'.problem? := by
      refine problem?_congr (hs.attempts.symm.trans hs'.attempts)
        (hs.pageContainer.symm.trans hs'.pageContainer) ?_
      by_cases hgiven : o.combinations = []
      · exact .inl ((hs.combinations_kept hgiven).symm.trans (hs'.combinations_kept hgiven))
      · exact .inr (hnames hgiven)
    rw [assemble_eq h, assemble_eq h', hproblem, ← hs.eq_override, ← hs'.eq_override]

end

/-! ## Files with and without fixtures -/

theorem read_firefox : read "combinations: [firefox]\n" =
    .ok { standard with combinations := ["firefox"] } := ok_of_toOption (by decide +kernel)

theorem read_nightly : read "run_name: Nightly\n" =
    .ok { standard with runName := "Nightly" } := ok_of_toOption (by decide +kernel)

theorem read_none : read "combinations: []\n" =
    .ok { standard with combinations := [] } := ok_of_toOption (by decide +kernel)

/-- One file gives fixtures and the other a name, and both are replaced. -/
theorem assemble_replaced_chrome :
    read "combinations: [firefox]\n" = .ok { standard with combinations := ["firefox"] } ∧
    read "run_name: Nightly\n" = .ok { standard with runName := "Nightly" } ∧
    assemble (some ("run.yaml", .ok "combinations: [firefox]\n")) ⟨none, ["chrome"], some "Smoke"⟩ =
      .ok { standard with combinations := ["chrome"], runName := "Smoke" } ∧
    assemble (some ("run.yaml", .ok "combinations: [firefox]\n")) ⟨none, ["chrome"], some "Smoke"⟩ =
      assemble (some ("run.yaml", .ok "run_name: Nightly\n")) ⟨none, ["chrome"], some "Smoke"⟩ := by
  have hnames : NameFixtures ["firefox"] := ⟨by decide, by decide⟩
  have hnames' : NameFixtures ["default"] := ⟨by decide, by decide⟩
  obtain ⟨hok, hsame⟩ :=
    assemble_replaced read_firefox "run.yaml" ⟨none, ["chrome"], some "Smoke"⟩
  refine ⟨read_firefox, read_nightly, (hok _).2 ⟨replaced_override _ _, rfl, fun _ => hnames⟩, ?_⟩
  exact hsame _ _ _ read_nightly (replaced_override _ _) (replaced_override _ _)
    fun _ => ⟨hnames, hnames'⟩

/-- A file without fixtures is refused although others take their place, and although the settings that
come out can drive a run. A file that differs only in its fixtures is not. -/
theorem assemble_refuses_replaced :
    read "combinations: []\n" = .ok { standard with combinations := [] } ∧
    Replaced ⟨none, ["chrome"], none⟩ { standard with combinations := [] }
      { standard with combinations := ["chrome"] } ∧
    validate { standard with combinations := ["chrome"] } =
      .ok { standard with combinations := ["chrome"] } ∧
    assemble (some ("run.yaml", .ok "combinations: []\n")) ⟨none, ["chrome"], none⟩ =
      .error (.file "run.yaml" (.config "combinations must not be empty")) ∧
    assemble (some ("run.yaml", .ok "combinations: [firefox]\n")) ⟨none, ["chrome"], none⟩ =
      .ok { standard with combinations := ["chrome"] } := by
  refine ⟨read_none, replaced_override _ _, rfl, ?_, ?_⟩
  · rw [assemble_eq read_none]
    rfl
  · rw [assemble_eq read_firefox]
    rfl

end Selenese.Settings
