import Selenese.Proofs.Report.Rollup
import Selenese.Proofs.Report.Tally

/-!
# Selenese.Proofs.Report.Order

Writing the entries of tests in another order.

* `Alike r r'`: two reports show the same, but for how long anything took, the order of children and
  the flags of scopes.
* `Apart d e`: two tests are different, and where their ways run together they spell the scopes
  alike.
* `writeAll_comm`: entries of tests that are apart can be written in either order.
* `toldAll_perm`: so tests that are pairwise apart can be told in any order.
-/

namespace Selenese.Report

/-! ## What is left when the order is forgotten -/

/-- A heading, but for its flags. -/
def Heading.outline (h : Heading) : Heading := { h with flags := .unset }

/-- Two reports with the same counts, the same test cases but for their times, and the same scopes
but for their flags. -/
structure Alike (r r' : Report) : Prop where
  tally : r'.tally = r.tally
  cases : ∀ d, (r'.testCase? d).map TestCase.untimed = (r.testCase? d).map TestCase.untimed
  scopes : ∀ p, (r'.heading? p).map Heading.outline = (r.heading? p).map Heading.outline

namespace Alike

theorem refl (r : Report) : Alike r r := ⟨rfl, fun _ => rfl, fun _ => rfl⟩

theorem symm {r r' : Report} (h : Alike r r') : Alike r' r :=
  ⟨h.tally.symm, fun d => (h.cases d).symm, fun p => (h.scopes p).symm⟩

theorem trans {r r' r'' : Report} (h : Alike r r') (h' : Alike r' r'') : Alike r r'' :=
  ⟨h'.tally.trans h.tally, fun d => (h'.cases d).trans (h.cases d),
    fun p => (h'.scopes p).trans (h.scopes p)⟩

theorem testCase?_eq_none {r r' : Report} (h : Alike r r') (d : TestId) :
    r'.testCase? d = none ↔ r.testCase? d = none := by
  have hcases := h.cases d
  cases hr : r.testCase? d <;> cases hr' : r'.testCase? d <;> simp [hr, hr'] at hcases ⊢

end Alike

/-! ## One entry -/

theorem Event.untimed_amend (e : Event) (elapsed : Nat) (c : TestCase) :
    (e.amend elapsed c).untimed = (e.amend 0 c.untimed).untimed := by
  cases e <;> simp [TestCase.untimed, amend, flags?, Function.comp_def]

theorem Event.outline_mark (e : Event) (h : Heading) :
    (e.mark h).outline = (e.mark h.outline).outline := by
  cases e <;> rfl

namespace Entry

theorem untimed_write (e : Entry) (d : TestId) (r : Report) :
    ((e.write r).testCase? d).map TestCase.untimed =
      if e.test.SameAs d ∧ e.event ≠ .begun then
        some (e.event.amend 0
          (((r.testCase? d).map TestCase.untimed).getD (.named e.test.fullPath))).untimed
      else (r.testCase? d).map TestCase.untimed := by
  rw [e.testCase?_write]
  split
  · rw [Option.map_some, Event.untimed_amend]
    cases r.testCase? d <;> rfl
  · rfl

theorem outline_write (e : Entry) (p : List Step) (r : Report) :
    ((e.write r).heading? p).map Heading.outline =
      if Passes e.test p ∧ e.event ≠ .begun then
        some (e.event.mark
          (((r.heading? p).map Heading.outline).getD (.ofStep (stepAt e.test p.length)))).outline
      else (r.heading? p).map Heading.outline := by
  have hclock : heading? { r with clock := e.clock } p = r.heading? p := rfl
  rw [write, Event.heading?_write, hclock]
  split
  · rw [Option.map_some, Event.outline_mark]
    cases r.heading? p <;> rfl
  · rfl

theorem tally_write (e : Entry) (r : Report) :
    (e.write r).tally = {
      total := r.tally.total + if e.event ≠ .begun ∧ r.testCase? e.test = none then 1 else 0
      errors := r.tally.errors + if e.event.isException then 1 else 0
      failures := r.tally.failures + if e.event.isFailed then 1 else 0
      inconclusive := r.tally.inconclusive + if e.event.isInconclusive then 1 else 0
      ignored := r.tally.ignored + if e.event.isIgnored then 1 else 0
      invalid := r.tally.invalid + if e.event = .invalid then 1 else 0 } :=
  e.event.tally_write e.test _

end Entry

theorem Alike.write {r r' : Report} (h : Alike r r') (e : Entry) :
    Alike (e.write r) (e.write r') where
  tally := by simp only [e.tally_write, h.tally, h.testCase?_eq_none]
  cases d := by rw [e.untimed_write, e.untimed_write, h.cases]
  scopes p := by rw [e.outline_write, e.outline_write, h.scopes]

theorem Alike.writeAll {r r' : Report} (h : Alike r r') (es : List Entry) :
    Alike (writeAll es r) (writeAll es r') := by
  induction es generalizing r r' with
  | nil => exact h
  | cons e rest ih => exact ih (h.write e)

/-! ## Tests that are apart -/

/-- Two tests are different, and a scope that both go through is spelled alike by both. -/
structure Apart (d e : TestId) : Prop where
  different : ¬ d.SameAs e
  spelling : ∀ p, Passes d p → Passes e p → stepAt d p.length = stepAt e p.length

theorem Apart.symm {d e : TestId} (h : Apart d e) : Apart e d :=
  ⟨fun hsame => h.different hsame.symm, fun p hd he => (h.spelling p he hd).symm⟩

theorem write_comm {e e' : Entry} (h : Apart e.test e'.test) (r : Report) :
    Alike (e'.write (e.write r)) (e.write (e'.write r)) := by
  have hcase : (e.write r).testCase? e'.test = r.testCase? e'.test := by
    rw [e.testCase?_write, if_neg fun hsame => h.different hsame.1]
  have hcase' : (e'.write r).testCase? e.test = r.testCase? e.test := by
    rw [e'.testCase?_write, if_neg fun hsame => h.symm.different hsame.1]
  constructor
  · rw [e.tally_write, e'.tally_write, e'.tally_write, e.tally_write, hcase, hcase']
    simp only [Tally.mk.injEq]
    refine ⟨?_, ?_, ?_, ?_, ?_, ?_⟩ <;> omega
  · intro d
    rw [e.untimed_write, e'.untimed_write, e'.untimed_write, e.untimed_write]
    by_cases hd : e.test.SameAs d
    · have hd' : ¬ e'.test.SameAs d := fun hd' => h.different (hd.trans hd'.symm)
      simp only [hd', false_and, if_false]
    · simp only [hd, false_and, if_false]
  · intro p
    rw [e.outline_write, e'.outline_write, e'.outline_write, e.outline_write]
    by_cases hp : Passes e.test p ∧ e.event ≠ .begun
    · by_cases hp' : Passes e'.test p ∧ e'.event ≠ .begun
      · -- both mark the scope, and the first of them would create it under the same name
        rw [if_pos hp, if_pos hp', if_pos hp, if_pos hp', h.spelling p hp.1 hp'.1]
        cases e.event <;> cases e'.event <;> simp [Event.mark, Event.flags?, Heading.outline,
          Heading.touch, Heading.ofStep]
      · rw [if_pos hp, if_neg hp', if_neg hp', if_pos hp]
    · rw [if_neg hp, if_neg hp]

theorem write_writeAll_comm {e : Entry} {es : List Entry} (h : ∀ e' ∈ es, Apart e.test e'.test)
    (r : Report) : Alike (writeAll es (e.write r)) (e.write (writeAll es r)) := by
  induction es generalizing r with
  | nil => exact .refl _
  | cons e' rest ih =>
    have hswap := (write_comm (h e' List.mem_cons_self) r).writeAll rest
    exact hswap.trans (ih (fun e'' h' => h e'' (List.mem_cons_of_mem _ h')) (e'.write r))

/-- Each entry of the first list goes past all of the second. -/
theorem writeAll_comm {es es' : List Entry} (h : ∀ e ∈ es, ∀ e' ∈ es', Apart e.test e'.test)
    (r : Report) : Alike (writeAll es' (writeAll es r)) (writeAll es (writeAll es' r)) := by
  induction es generalizing r with
  | nil => exact .refl _
  | cons e rest ih =>
    have hpast := (write_writeAll_comm (h e List.mem_cons_self) r).writeAll rest
    exact (ih (fun e' h' => h e' (List.mem_cons_of_mem _ h')) (e.write r)).trans hpast

theorem test_of_mem_told {d : TestId} {clock : Nat} {events : List Event} {e : Entry}
    (h : e ∈ told d clock events) : e.test = d := by
  obtain ⟨_, _, rfl⟩ := List.mem_map.1 h
  rfl

/-- **Tests that are pairwise apart can be told in any order.** By induction on the permutation. -/
theorem toldAll_perm {clock : Nat} {tests tests' : List (TestId × List Event)}
    (hperm : tests.Perm tests') (h : tests.Pairwise fun p q => Apart p.1 q.1) (r : Report) :
    Alike (writeAll (toldAll clock tests) r) (writeAll (toldAll clock tests') r) := by
  induction hperm generalizing r with
  | nil => exact .refl _
  | cons p _ ih =>
    rw [toldAll_cons, toldAll_cons, writeAll_append, writeAll_append]
    exact ih (List.pairwise_cons.1 h).2 _
  | swap p q rest =>
    have hpq : Apart q.1 p.1 := (List.pairwise_cons.1 h).1 p List.mem_cons_self
    rw [toldAll_cons, toldAll_cons, toldAll_cons, toldAll_cons, writeAll_append, writeAll_append,
      writeAll_append, writeAll_append]
    refine Alike.writeAll (writeAll_comm ?_ r) _
    intro e he e' he'
    rw [test_of_mem_told he, test_of_mem_told he']
    exact hpq
  | trans hfirst _ ih ih' =>
    exact (ih h r).trans (ih' (hfirst.pairwise h fun hpq => hpq.symm) r)

/-- In one suite, different tests are apart if each fixture has one spelling. -/
theorem Apart.of_suite {d e : TestId} (hdifferent : ¬ d.SameAs e) (hsuite : d.suite = e.suite)
    (hfixture : Text.sameIgnoringCase d.fixture e.fixture → d.fixture = e.fixture) : Apart d e := by
  refine ⟨hdifferent, ?_⟩
  intro p hd he
  have hsegments : d.segments = e.segments := by rw [TestId.segments, hsuite]; rfl
  by_cases hf : d.fixture = e.fixture
  · have hpath : path d = path e := by rw [path, path, hsegments, hf]
    rw [stepAt, stepAt, hpath, hsegments]
  · -- the ways part at the fixture
    have hlength : p.length ≤ ((d.segments.drop 1).map (Step.mk .segment)).length := by
      refine Nat.le_of_not_lt fun hlong => hf (hfixture ?_)
      have hall (d' : TestId) (hseg : d'.segments = d.segments) (hp : Passes d' p) :
          p.map Step.key = (path d').map Step.key := by
        refine hp.eq_of_length_le ?_
        simp only [List.length_map, path, hseg, List.length_append, List.length_singleton]
          at hlong ⊢
        omega
      have hkeys := (hall d rfl hd).symm.trans (hall e hsegments.symm he)
      rw [path, path, List.map_append, List.map_append] at hkeys
      have hlast := (List.append_inj' hkeys rfl).2
      exact Text.sameIgnoringCase_iff.2 (Prod.mk.inj (List.cons.inj hlast).1).2
    have htake (d' : TestId) (hseg : d'.segments = d.segments) : (path d').take p.length =
        ((d.segments.drop 1).map (Step.mk .segment)).take p.length := by
      rw [path, hseg, List.take_append_of_le_length hlength]
    rw [stepAt, stepAt, htake d rfl, htake e hsegments.symm, hsegments]

end Selenese.Report
