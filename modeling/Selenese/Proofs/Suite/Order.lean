import Mathlib.Data.List.Pairwise
import Selenese.Proofs.Report.Order
import Selenese.Proofs.Suite.Dry
import Selenese.Proofs.Suite.Verdict

/-!
# Selenese.Proofs.Suite.Order

Running the scripts of a suite in another order.

* `tests_perm`: scripts in another order are the same tests in another order.
* `apart_tests`: the tests of a suite are pairwise apart if no two have the fixture and the name of
  each other.
* `dryTests_perm` and `liveTests_perm`: such tests count the same and leave reports that are alike,
  in every order.
* `runs_perm`: so do dry and live runs of suites that link to the same scripts in another order.
-/

namespace Selenese.Suite

open Report (Alike Apart Event writeAll told toldAll)
open Text (sameIgnoringCase)

/-! ## The tests of a suite -/

theorem tests_perm (settings : Settings) (suite : String) {entries entries' : List Entry}
    (h : entries.Perm entries') :
    (tests settings suite entries).Perm (tests settings suite entries') := h.flatMap_right _

/-- No two tests have the fixture and the name of each other, up to the case of ASCII letters. -/
def Distinct (runs : List (TestId × Script)) : Prop :=
  runs.Pairwise fun p q =>
    ¬ (sameIgnoringCase p.1.fixture q.1.fixture ∧ sameIgnoringCase p.1.test q.1.test)

instance (runs : List (TestId × Script)) : Decidable (Distinct runs) :=
  inferInstanceAs (Decidable (List.Pairwise _ _))

/-- Every script is run with all combinations. So where tests are distinct, no two combinations are
equal up to the case of ASCII letters. -/
theorem fixture_eq_of_same {settings : Settings} {suite : String} {entries : List Entry}
    (h : Distinct (tests settings suite entries)) {p q : TestId × Script}
    (hp : p ∈ tests settings suite entries) (hq : q ∈ tests settings suite entries)
    (hsame : sameIgnoringCase p.1.fixture q.1.fixture) : p.1.fixture = q.1.fixture := by
  obtain ⟨entry, hentry, hp⟩ := List.mem_flatMap.1 hp
  obtain ⟨c, hc, rfl⟩ := List.mem_map.1 hp
  obtain ⟨_, _, hq⟩ := List.mem_flatMap.1 hq
  obtain ⟨c', hc', rfl⟩ := List.mem_map.1 hq
  have hcombinations : settings.combinations.Pairwise fun a b => ¬ sameIgnoringCase a b := by
    have hentry := (List.pairwise_flatMap.1 h).1 entry hentry
    rw [List.pairwise_map] at hentry
    exact hentry.imp fun hne hab => hne ⟨hab, by simp [sameIgnoringCase]⟩
  have : Std.Symm fun a b => ¬ sameIgnoringCase a b :=
    ⟨fun a b hab hba => hab (Text.sameIgnoringCase_iff.2 (Text.sameIgnoringCase_iff.1 hba).symm)⟩
  by_contra hne
  exact hcombinations.forall hc hc' hne hsame

theorem apart_tests {settings : Settings} {suite : String} {entries : List Entry}
    (h : Distinct (tests settings suite entries)) :
    (tests settings suite entries).Pairwise fun p q => Apart p.1 q.1 := by
  refine List.Pairwise.imp_of_mem ?_ h
  intro p q hp hq hne
  refine .of_suite (fun hsame => hne hsame.2) ?_ (fixture_eq_of_same h hp hq)
  rw [suite_of_mem_tests hp, suite_of_mem_tests hq]

/-! ## Runs of tests -/

theorem toldAll_map_perm (events : TestId × Script → List Event)
    {runs runs' : List (TestId × Script)} (hperm : runs.Perm runs')
    (happart : runs.Pairwise fun p q => Apart p.1 q.1) (r : Report) :
    Alike (writeAll (toldAll r.clock (runs.map fun p => (p.1, events p))) r)
      (writeAll (toldAll r.clock (runs'.map fun p => (p.1, events p))) r) :=
  Report.toldAll_perm (hperm.map _) (List.pairwise_map.2 happart) r

theorem dryTests_perm {runs runs' : List (TestId × Script)} (hperm : runs.Perm runs')
    (happart : runs.Pairwise fun p q => Apart p.1 q.1) (s : Summary) (r : Report) :
    (dryTests runs' s r).1 = (dryTests runs s r).1 ∧
      Alike (dryTests runs s r).2 (dryTests runs' s r).2 := by
  rw [dryTests_eq, dryTests_eq]
  refine ⟨?_, toldAll_map_perm (fun p => dryEvents p.2) hperm happart r⟩
  rw [hperm.length_eq, hperm.countP_eq]

section

variable {σ : Type} {openSession : String → StateM σ (Except SessionError Session)}
  (options : Options)

/-- With sessions that depend on nothing but the combination, every test has a course of its own. -/
theorem courses_eq_map (hopen : ∀ c t t', (openSession c t).1 = (openSession c t').1)
    (runs : List (TestId × Script)) (t t' : σ) :
    courses openSession options runs t =
      runs.map fun p => (p.1, .of options p.1 p.2 (openSession p.1.fixture t').1) := by
  induction runs generalizing t with
  | nil => rfl
  | cons p rest ih => rw [courses, ih, hopen _ t t', List.map_cons]

theorem foldl_count_perm {cs cs' : List (TestId × Course)} (hperm : cs.Perm cs') (s : Summary) :
    cs.foldl (fun s c => s.count c.2.fault) s = cs'.foldl (fun s c => s.count c.2.fault) s := by
  refine hperm.foldl_eq' ?_ s
  intro c _ c' _ s
  simp only [Summary.count, Nat.add_right_comm]

theorem liveTests_perm (hopen : ∀ c t t', (openSession c t).1 = (openSession c t').1)
    {runs runs' : List (TestId × Script)} (hperm : runs.Perm runs')
    (happart : runs.Pairwise fun p q => Apart p.1 q.1) (x : Record) (t t' : σ) :
    let y := (liveTests options openSession runs x t).1
    let y' := (liveTests options openSession runs' x t').1
    y'.summary = y.summary ∧ Alike y.report y'.report := by
  intro y y'
  obtain ⟨hsummary, hreport, _⟩ := liveTests_courses openSession options runs x t
  obtain ⟨hsummary', hreport', _⟩ := liveTests_courses openSession options runs' x t'
  rw [courses_eq_map options hopen runs t t] at hsummary hreport
  rw [courses_eq_map options hopen runs' t' t] at hsummary' hreport'
  refine ⟨?_, ?_⟩
  · rw [hsummary, hsummary']
    exact (foldl_count_perm (hperm.map _) x.summary).symm
  · rw [hreport, hreport', List.map_map, List.map_map]
    exact toldAll_map_perm
      (fun p => (Course.of options p.1 p.2 (openSession p.1.fixture t).1).events)
      hperm happart x.report

/-- **The order of scripts does not matter.** Two suites of one name link to the same scripts in
different orders, no two tests have one fixture and one name up to the case of ASCII letters, and
sessions depend on nothing but the combination. Then dry runs of the two give the same summary, and
from one report they lead to reports that are alike; and so do live runs. -/
theorem runs_perm {read read' : String → StateM σ (Except FileError String)} (settings : Settings)
    {path path' : String} (hname : nameOf path' = nameOf path) {l l' : Loaded} {t t' t₀ t₀' : σ}
    (hload : load read settings path t = (.ok l, t₀))
    (hload' : load read' settings path' t' = (.ok l', t₀'))
    (hperm : l.entries.Perm l'.entries) (hskipped : l'.skipped = l.skipped)
    (hdistinct : Distinct (tests settings (nameOf path) l.entries))
    (hopen : ∀ c t t', (openSession c t).1 = (openSession c t').1) (r : Report) :
    (∃ s u u', dryRun read settings path r t = (.ok (s, u), t₀) ∧
      dryRun read' settings path' r t' = (.ok (s, u'), t₀') ∧ Alike u u') ∧
    ∃ x x' v v', liveRun read settings openSession path r t = (.ok x, v) ∧
      liveRun read' settings openSession path' r t' = (.ok x', v') ∧
      x'.summary = x.summary ∧ Alike x.report x'.report := by
  have hruns := tests_perm settings (nameOf path) hperm
  have happart := apart_tests hdistinct
  have hsummary : l'.summary = l.summary := by
    rw [Loaded.summary, hskipped, ← hperm.length_eq]; rfl
  refine ⟨?_, ?_⟩
  · obtain ⟨hcounts, halike⟩ := dryTests_perm hruns happart l.summary r
    refine ⟨_, _, _, dryRun_loaded hload r, ?_, halike⟩
    rw [dryRun_loaded hload', hname, hsummary, ← hcounts]
  · have hlive := liveTests_perm settings.options hopen hruns happart ⟨l.summary, r, []⟩ t₀ t₀'
    have hrun := liveRun_loaded openSession hload' r
    dsimp only at hrun
    rw [hname, hsummary] at hrun
    exact ⟨_, _, _, _, liveRun_loaded openSession hload r, hrun, hlive⟩

end

/-- Two scripts in both orders; the second has an unknown command. -/
theorem runs_perm_swapped :
    let suite (a b : String) := "<table class=selenium><tr><td><a href=" ++ a ++ ">" ++ a ++
      "</a><tr><td><a href=" ++ b ++ ">" ++ b ++ "</a></table>"
    let home := "<table><tr><td>assertTitle<td><td></table>"
    let drag := "<table><tr><td>dragAndDrop<td><td></table>"
    let files (suite : String) : String → Except FileError String := fun path =>
      .ok (if path = "suite" then suite else if path = "home" then home else drag)
    let settings : Settings := { Settings.standard with combinations := ["de", "en"] }
    let openSession : String → StateM Unit (Except SessionError Session) := fun c _ =>
      (if c = "de" then .error (.backend "grid unavailable") else .ok .empty, ())
    let report := Report.create "Shop" ⟨"2024-05-01", "12:00:00"⟩
      (.capture ⟨"linux", "x64", "/", "host"⟩ fun _ => none)
    ∃ x x', liveRun (fun p => pure (files (suite "home" "drag") p)) settings openSession "suite"
        report () = (.ok x, ()) ∧
      liveRun (fun p => pure (files (suite "drag" "home") p)) settings openSession "suite"
        report () = (.ok x', ()) ∧
      x'.summary = x.summary ∧ Alike x.report x'.report := by
  intro suite home drag files settings openSession report
  let l (a b : String) := loadedOf ([⟨a, a⟩, ⟨b, b⟩].map fun link : Link =>
    let place := Path.join (Path.folder "suite") link.target
    entryOf? settings link place (files (suite a b) place))
  have hload (a b : String) (h : (Link.parse (suite a b)).toOption = some [⟨a, a⟩, ⟨b, b⟩]) :
      (load (fun p => pure (files (suite a b) p)) settings "suite" :
        StateM Unit (Except Fault Loaded)) () = (.ok (l a b), ()) :=
    congrFun (load_files (files (suite a b)) settings "suite" rfl (ok_of_toOption h)) ()
  have hl := hload "home" "drag" (by decide +kernel)
  have hl' := hload "drag" "home" (by decide +kernel)
  have hentries : (l "drag" "home").entries = (l "home" "drag").entries.reverse := by
    decide +kernel
  have hperm : (l "home" "drag").entries.Perm (l "drag" "home").entries := by
    rw [hentries]
    exact (List.reverse_perm _).symm
  have hskipped : (l "drag" "home").skipped = (l "home" "drag").skipped := by decide +kernel
  have hdistinct : Distinct (tests settings (nameOf "suite") (l "home" "drag").entries) := by
    decide +kernel
  have hopen : ∀ c t t', (openSession c t).1 = (openSession c t').1 := fun _ _ _ => rfl
  obtain ⟨x, x', v, v', hruns⟩ :=
    (runs_perm settings rfl hl hl' hperm hskipped hdistinct hopen report).2
  exact ⟨x, x', hruns⟩

end Selenese.Suite
