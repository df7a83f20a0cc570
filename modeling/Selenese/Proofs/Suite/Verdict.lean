import Selenese.Proofs.Suite.Live

/-!
# Selenese.Proofs.Suite.Verdict

The verdict that a report shows of a test.

* `Course.flags` and `Course.failure`: what a course is worth in the end.
* `Course.shown`: a report that was told a course, and no more of the test, shows exactly that.
* `liveRun_verdicts`: so does a live run, for every test that shares its name with no other.
-/

namespace Selenese.Suite

open Report (Answers Event FailureDetail Flags TestCase told toldAll traceOf)
open Text (sameIgnoringCase)

/-! ## What a course is worth -/

namespace Course

/-- The flags of a test whose assertions held, if there were any. -/
def passedFlags (held : Nat) : Flags :=
  if held = 0 then .unset else ⟨some true, some .success, some true⟩

def flags (c : Course) : Flags :=
  match c.fault with
  | none => passedFlags c.held
  | some (.unsupportedCommand _) => ⟨some false, some .invalid, some false⟩
  | some (.assertionFailed ..) => ⟨some true, some .failed, some false⟩
  | some _ => ⟨some true, some .failed, (passedFlags c.held).success⟩

def failure (c : Course) : Option FailureDetail :=
  match c.fault with
  | none | some (.unsupportedCommand _) => none
  | some (.assertionFailed message location) => some ⟨message, location⟩
  | some f => some ⟨f.message, traceOf f.message f.causes⟩

/-- What is read off the events of a course, part by part. -/
theorem filterMap_parts {β : Type} (f : Event → Option β) (c : Course) :
    c.events.filterMap f =
      (f .begun).toList ++ (List.replicate c.held Event.passed).filterMap f ++
        (c.fault.elim [] Fault.told).filterMap f ++
        (c.messages.filterMap fun m => f (.property verificationProperty m)) ++
        if c.fault.any Fault.isUnknownCommand then (f .invalid).toList else [] := by
  have hbegun (rest : List Event) :
      (Event.begun :: rest).filterMap f = (f .begun).toList ++ rest.filterMap f := by
    cases h : f .begun <;> simp [h]
  have hinvalid : (if c.fault.any Fault.isUnknownCommand then [Event.invalid] else []).filterMap f =
      if c.fault.any Fault.isUnknownCommand then (f .invalid).toList else [] := by
    split
    · cases h : f .invalid <;> simp [h]
    · rfl
  rw [events, testEvents, Replay.runEvents, hbegun, List.filterMap_append, List.filterMap_append,
    List.filterMap_append, List.filterMap_map, hinvalid]
  simp only [List.append_assoc]
  rfl

/-- Where starts and properties say nothing. -/
theorem filterMap_events {β : Type} {f : Event → Option β} (hbegun : f .begun = none)
    (hproperty : ∀ name value, f (.property name value) = none) (c : Course) :
    c.events.filterMap f =
      (List.replicate c.held Event.passed).filterMap f ++
        (c.fault.elim [] Fault.told).filterMap f ++
        if c.fault.any Fault.isUnknownCommand then (f .invalid).toList else [] := by
  have hmessages : (c.messages.filterMap fun m => f (.property verificationProperty m)) = [] :=
    List.filterMap_eq_nil_iff.2 fun m _ => hproperty _ m
  rw [filterMap_parts, hbegun, hmessages, List.append_nil]
  rfl

theorem foldl_passed (held : Nat) :
    (List.replicate held (⟨some true, some .success, some true⟩ : Flags)).foldl Flags.merge .unset =
      passedFlags held := by
  induction held with
  | zero => rfl
  | succ n ih =>
    rw [List.replicate_succ', List.foldl_append, ih, passedFlags]
    split <;> rfl

variable {c : Course} (hfault : ∀ f, c.fault = some f → f.endsRuns = true)

include hfault

theorem foldl_flags : (c.events.filterMap Event.flags?).foldl Flags.merge .unset = c.flags := by
  have hpassed : (List.replicate c.held Event.passed).filterMap Event.flags? =
      List.replicate c.held ⟨some true, some .success, some true⟩ := by
    rw [List.filterMap_replicate]; rfl
  rw [filterMap_events rfl (fun _ _ => rfl), List.foldl_append, List.foldl_append, hpassed,
    foldl_passed, flags]
  cases hf : c.fault with
  | none => rfl
  | some f =>
    have hends := hfault f hf
    cases f with
    | unsupportedCommand command => rfl
    | assertionFailed m place => rfl
    | session e => rfl
    | invalidArgument m => rfl
    | _ => cases hends

theorem getLast?_failure : (c.events.filterMap Event.failure?).getLast? = c.failure := by
  have hpassed : (List.replicate c.held Event.passed).filterMap Event.failure? = [] := by
    rw [List.filterMap_replicate]; rfl
  rw [filterMap_events rfl (fun _ _ => rfl), hpassed, failure]
  cases hf : c.fault with
  | none => rfl
  | some f =>
    have hends := hfault f hf
    cases f with
    | unsupportedCommand command => rfl
    | assertionFailed m place => rfl
    | session e => rfl
    | invalidArgument m => rfl
    | _ => cases hends

omit hfault in
theorem countP_passed (c : Course) : c.events.countP (fun e => e = .passed) = c.held := by
  have hmessages : (c.messages.map (Event.property verificationProperty)).countP
      (fun e => decide (e = .passed)) = 0 := by
    rw [List.countP_map, List.countP_eq_zero]
    intro m _
    simp
  rw [events, testEvents, List.countP_cons, List.countP_append, List.countP_append, hmessages,
    Replay.countP_runEvents, Replay.countP_told_eq_zero Event.ne_passed_of_fault]
  cases c.fault.any Fault.isUnknownCommand <;> simp

omit hfault in
theorem mem_events_of_told {f : Fault} (hf : c.fault = some f) {e : Event} (he : e ∈ f.told) :
    e ∈ c.events ∧ e ≠ .begun := by
  refine ⟨by simp [events, testEvents, Replay.runEvents, hf, he], ?_⟩
  rintro rfl
  cases f <;> simp [Fault.told] at he

/-- A course is told by more than a start exactly if something happens in it. -/
theorem events_eq_begun :
    (∀ e ∈ c.events, e = .begun) ↔ c.held = 0 ∧ c.fault = none ∧ c.messages = [] := by
  cases hf : c.fault with
  | none =>
    constructor
    · intro h
      refine ⟨Nat.eq_zero_of_not_pos fun hheld => ?_, rfl,
        List.eq_nil_iff_forall_not_mem.2 fun m hm => ?_⟩
      · have hmem : Event.passed ∈ c.events := by
          simp [events, testEvents, Replay.runEvents, List.mem_replicate, Nat.ne_of_gt hheld]
        cases h _ hmem
      · have hmem : Event.property verificationProperty m ∈ c.events := by
          simp [events, testEvents, hm]
        cases h _ hmem
    · rintro ⟨hheld, _, hmessages⟩
      simp [events, testEvents, Replay.runEvents, hheld, hf, hmessages]
  | some f =>
    have hends := hfault f hf
    refine ⟨fun h => ?_, fun h => (Option.some_ne_none f h.2.1).elim⟩
    obtain ⟨e, hmem, he⟩ : ∃ e ∈ c.events, e ≠ .begun := by
      cases f with
      | unsupportedCommand command =>
        exact ⟨.invalid, by simp [events, testEvents, hf, Fault.isUnknownCommand], by decide⟩
      | assertionFailed m place => exact ⟨_, mem_events_of_told hf List.mem_cons_self⟩
      | session e => exact ⟨_, mem_events_of_told hf List.mem_cons_self⟩
      | invalidArgument m => exact ⟨_, mem_events_of_told hf List.mem_cons_self⟩
      | _ => cases hends
    exact absurd (h e hmem) he

theorem shown {d : TestId} {clock : Nat} {o : Option TestCase}
    (h : Answers (told d clock c.events) o) :
    (o = none ↔ c.held = 0 ∧ c.fault = none ∧ c.messages = []) ∧
      ∀ k, o = some k → k.flags = c.flags ∧ k.asserts = c.held ∧ k.failure = c.failure := by
  have hopening : Report.opening? (told d clock c.events) = none ↔
      c.held = 0 ∧ c.fault = none ∧ c.messages = [] := by
    rw [Report.opening?_eq_none, ← events_eq_begun hfault]
    simp [told]
  cases o with
  | none => exact ⟨⟨fun _ => hopening.1 h, fun _ => rfl⟩, fun k hk => absurd hk.symm (by simp)⟩
  | some k =>
    obtain ⟨hname, hholds⟩ := h
    refine ⟨⟨fun hnone => absurd hnone (by simp), fun hnone => ?_⟩, ?_⟩
    · rw [hopening.2 hnone] at hname
      cases hname
    · intro k' hk'
      obtain rfl := Option.some.inj hk'
      refine ⟨?_, ?_, ?_⟩
      · rw [hholds.flags, Report.filterMap_told d clock Event.flags?, foldl_flags hfault]
      · rw [hholds.asserts, Report.countP_told d clock (fun e => decide (e = .passed)),
          countP_passed]
      · rw [hholds.failure, Report.filterMap_told d clock Event.failure?, getLast?_failure hfault]

/-- What a report has of a test with some course. -/
structure ShownAs (c : Course) (o : Option TestCase) : Prop where
  passed : c.fault = none → 0 < c.held →
    ∃ k, o = some k ∧ k.flags = ⟨some true, some .success, some true⟩ ∧ k.asserts = c.held ∧
      k.failure = none
  /-- Verification errors alone give a test case without flags. -/
  unflagged : c.fault = none → c.held = 0 → c.messages ≠ [] → ∃ k, o = some k ∧ k.flags = .unset
  absent : c.fault = none → c.held = 0 → c.messages = [] → o = none
  failed : ∀ m place, c.fault = some (.assertionFailed m place) →
    ∃ k, o = some k ∧ k.flags = ⟨some true, some .failed, some false⟩ ∧ k.failure = some ⟨m, place⟩
  broken : ∀ f, c.fault = some f → f.isBreakdown →
    ∃ k, o = some k ∧
      k.flags = ⟨some true, some .failed, if 0 < c.held then some true else none⟩ ∧
      k.failure = some ⟨f.message, traceOf f.message f.causes⟩
  invalid : ∀ command, c.fault = some (.unsupportedCommand command) →
    ∃ k, o = some k ∧ k.flags = ⟨some false, some .invalid, some false⟩ ∧ k.failure = none
  /-- A run that did not end well never shows success. -/
  unsuccessful : ∀ f, c.fault = some f →
    f.endsRuns ∧ ∃ k, o = some k ∧ k.flags.verdict ≠ some .success

theorem shownAs {d : TestId} {clock : Nat} {o : Option TestCase}
    (h : Answers (told d clock c.events) o) : c.ShownAs o := by
  obtain ⟨hnone, hsome⟩ := shown hfault h
  have hcase : ¬ (c.held = 0 ∧ c.fault = none ∧ c.messages = []) →
      ∃ k, o = some k ∧ k.flags = c.flags ∧ k.asserts = c.held ∧ k.failure = c.failure := by
    intro hc
    obtain ⟨k, hk⟩ := Option.ne_none_iff_exists'.1 (mt hnone.1 hc)
    exact ⟨k, hk, hsome k hk⟩
  have hended : ∀ f, c.fault = some f →
      ∃ k, o = some k ∧ k.flags = c.flags ∧ k.asserts = c.held ∧ k.failure = c.failure := by
    intro f hf
    exact hcase fun hc => Option.some_ne_none f (hf.symm.trans hc.2.1)
  constructor
  · intro hf hheld
    obtain ⟨k, hk, hflags, hasserts, hfailure⟩ := hcase fun hc => Nat.ne_of_gt hheld hc.1
    refine ⟨k, hk, ?_, hasserts, ?_⟩
    · rw [hflags, flags, hf]
      exact if_neg (Nat.ne_of_gt hheld)
    · rw [hfailure, failure, hf]
  · intro hf hheld hmessages
    obtain ⟨k, hk, hflags, _⟩ := hcase fun hc => hmessages hc.2.2
    refine ⟨k, hk, ?_⟩
    rw [hflags, flags, hf]
    exact if_pos hheld
  · exact fun hf hheld hmessages => hnone.2 ⟨hheld, hf, hmessages⟩
  · intro m place hf
    obtain ⟨k, hk, hflags, _, hfailure⟩ := hended _ hf
    exact ⟨k, hk, by rw [hflags, flags, hf], by rw [hfailure, failure, hf]⟩
  · intro f hf hbroken
    obtain ⟨k, hk, hflags, _, hfailure⟩ := hended _ hf
    have hsuccess : (passedFlags c.held).success = if 0 < c.held then some true else none := by
      cases c.held <;> rfl
    refine ⟨k, hk, ?_, ?_⟩
    · rw [hflags, flags, hf, ← hsuccess]
      cases f <;> first | rfl | cases hbroken
    · rw [hfailure, failure, hf]
      cases f <;> first | rfl | cases hbroken
  · intro command hf
    obtain ⟨k, hk, hflags, _, hfailure⟩ := hended _ hf
    exact ⟨k, hk, by rw [hflags, flags, hf], by rw [hfailure, failure, hf]⟩
  · intro f hf
    obtain ⟨k, hk, hflags, _⟩ := hended _ hf
    refine ⟨hfault f hf, k, hk, ?_⟩
    rw [hflags, flags, hf]
    cases f <;> simp

end Course

/-! ## One test among others -/

theorem filter_eq_singleton {α : Type} {l : List α} {i : Nat} {a : α} {p : α → Bool}
    (hi : l[i]? = some a) (ha : p a = true)
    (hother : ∀ j b, j ≠ i → l[j]? = some b → p b = false) : l.filter p = [a] := by
  induction l generalizing i with
  | nil => cases hi
  | cons b rest ih =>
    cases i with
    | zero =>
      cases hi
      have hrest : rest.filter p = [] := by
        rw [List.filter_eq_nil_iff]
        intro c hc
        obtain ⟨j, hj⟩ := List.mem_iff_getElem?.1 hc
        rw [hother (j + 1) c (Nat.succ_ne_zero j) hj]
        exact Bool.false_ne_true
      rw [List.filter_cons_of_pos ha, hrest]
    | succ i =>
      have hb : p b = false := hother 0 b (Nat.succ_ne_zero i).symm rfl
      rw [List.filter_cons_of_neg (by simp [hb])]
      exact ih hi fun j c hj hc => hother (j + 1) c (fun h => hj (Nat.succ.inj h)) hc

theorem suite_of_mem_tests {settings : Settings} {suite : String} {entries : List Entry}
    {p : TestId × Script} (h : p ∈ tests settings suite entries) : p.1.suite = suite := by
  obtain ⟨e, _, hp⟩ := List.mem_flatMap.1 h
  obtain ⟨c, _, rfl⟩ := List.mem_map.1 hp
  rfl

section

variable {σ : Type} (openSession : String → StateM σ (Except SessionError Session))
  (options : Options)

theorem courses_getElem? (tests : List (TestId × Script)) (t : σ) (i : Nat) :
    (courses openSession options tests t)[i]? = tests[i]?.map fun p =>
      (p.1, .of options p.1 p.2 (openSession p.1.fixture
        (afterOpening openSession ((tests.take i).map (·.1.fixture)) t)).1) := by
  induction tests generalizing t i with
  | nil => rfl
  | cons p rest ih =>
    cases i with
    | zero => rfl
    | succ i => exact ih _ i

theorem liveRun_loaded {read : String → StateM σ (Except FileError String)} {settings : Settings}
    {path : String} {l : Loaded} {t t₀ : σ} (hload : load read settings path t = (.ok l, t₀))
    (report : Report) :
    let out := liveTests settings.options openSession (tests settings (nameOf path) l.entries)
      ⟨l.summary, report, []⟩ t₀
    liveRun read settings openSession path report t = (.ok out.1, out.2) := by
  simp only [liveRun, bind, StateT.bind, hload]
  rfl

/-- **Every test gets the verdict of its course.** Whatever the settings, the scripts that were
loaded and the way sessions are opened: if no other test of a live run has the fixture and the name
of a test, up to the case of ASCII letters, then in the end the report shows of that test what its
own run was worth. -/
theorem liveRun_verdicts (read : String → StateM σ (Except FileError String)) (settings : Settings)
    (path name : String) (created : Stamp) (environment : Report.Environment) {l : Loaded}
    {t t₀ : σ} (hload : load read settings path t = (.ok l, t₀)) :
    let runs := tests settings (nameOf path) l.entries
    ∃ x t', liveRun read settings openSession path (.create name created environment) t =
        (.ok x, t') ∧
      ∀ i d script, runs[i]? = some (d, script) →
        (∀ j e script', j ≠ i → runs[j]? = some (e, script') →
          ¬ (sameIgnoringCase e.fixture d.fixture ∧ sameIgnoringCase e.test d.test)) →
        let before := afterOpening openSession ((runs.take i).map (·.1.fixture)) t₀
        let c := Course.of settings.options d script (openSession d.fixture before).1
        x.sittings[i]?.map Sitting.fault? = some c.fault ∧ c.ShownAs (x.report.testCase? d) := by
  intro runs
  refine ⟨_, _, liveRun_loaded openSession hload _, ?_⟩
  intro i d script hi hother before c
  obtain ⟨_, hreport, hsittings⟩ := liveTests_courses openSession settings.options runs
    ⟨l.summary, .create name created environment, []⟩ t₀
  have hcourse : (courses openSession settings.options runs t₀)[i]? = some (d, c) := by
    rw [courses_getElem?, hi]; rfl
  refine ⟨?_, ?_⟩
  · rw [← List.getElem?_map, hsittings, List.map_nil, List.nil_append, List.getElem?_map, hcourse]
    rfl
  · have hfault : ∀ f, c.fault = some f → f.endsRuns = true :=
      Course.endsRuns_of settings.options d script _
    have hown : Report.entriesOf d (toldAll 0 ((courses openSession settings.options runs t₀).map
        fun p => (p.1, p.2.events))) = told d 0 c.events := by
      have hfilter := filter_eq_singleton
        (l := (courses openSession settings.options runs t₀).map fun p => (p.1, p.2.events))
        (i := i) (a := (d, c.events)) (p := fun p => decide (p.1.SameAs d))
        (by rw [List.getElem?_map, hcourse]; rfl) (decide_eq_true (.refl d)) ?_
      · rw [Report.entriesOf_toldAll, hfilter, toldAll, List.flatMap_singleton]
      · intro j q hj hq
        rw [List.getElem?_map, courses_getElem?, Option.map_map, Option.map_eq_some_iff] at hq
        obtain ⟨⟨e, script'⟩, he, rfl⟩ := hq
        exact decide_eq_false fun hsame => hother j e script' hj he hsame.2
    have hanswers := Report.answers_writeAll d (toldAll 0 ((courses openSession settings.options runs
      t₀).map fun p => (p.1, p.2.events))) [] (.create name created environment) rfl
    rw [hown] at hanswers
    rw [hreport]
    exact Course.shownAs hfault hanswers

end

/-- One script with two fixtures: the first has no session, and in the second an assertion about the
title of an empty page holds. -/
theorem liveRun_verdicts_fixtures :
    let suite := "<table class=selenium><tr><td><a href=home>Home</a></table>"
    let script := "<table><tr><td>assertTitle<td><td></table>"
    let files : String → Except FileError String :=
      fun path => .ok (if path = "suite" then suite else script)
    let settings : Settings := { Settings.standard with combinations := ["de", "en"] }
    let openSession : String → StateM Unit (Except SessionError Session) := fun c _ =>
      (if c = "de" then .error (.backend "grid unavailable") else .ok .empty, ())
    let report := Report.create "Shop" ⟨"2024-05-01", "12:00:00"⟩
      (.capture ⟨"linux", "x64", "/", "host"⟩ fun _ => none)
    ∃ l, (load (fun p => pure (files p)) settings "suite" : StateM Unit (Except Fault Loaded)) () =
        (.ok l, ()) ∧
      ∃ x, liveRun (fun p => pure (files p)) settings openSession "suite" report () = (.ok x, ()) ∧
        (∃ k, x.report.testCase? ⟨"suite", "de", "Home"⟩ = some k ∧
          k.flags = ⟨some true, some .failed, none⟩) ∧
        ∃ k, x.report.testCase? ⟨"suite", "en", "Home"⟩ = some k ∧
          k.flags = ⟨some true, some .success, some true⟩ ∧ k.asserts = 1 := by
  intro suite script files settings openSession report
  have hlinks : Link.parse suite = .ok [⟨"Home", "home"⟩] := ok_of_toOption (by decide +kernel)
  let l := loadedOf ([⟨"Home", "home"⟩].map fun link =>
    let place := Path.join (Path.folder "suite") link.target
    entryOf? settings link place (files place))
  have hload : (load (fun p => pure (files p)) settings "suite" :
      StateM Unit (Except Fault Loaded)) () = (.ok l, ()) :=
    congrFun (load_files files settings "suite" rfl hlinks) ()
  let home : Script := ⟨Script.untitled, "", [⟨"assertTitle", "", ""⟩]⟩
  have hruns : tests settings (nameOf "suite") l.entries =
      [(⟨"suite", "de", "Home"⟩, home), (⟨"suite", "en", "Home"⟩, home)] := by decide +kernel
  obtain ⟨x, t', hrun, hverdicts⟩ := liveRun_verdicts openSession (fun p => pure (files p)) settings
    "suite" "Shop" ⟨"2024-05-01", "12:00:00"⟩ (.capture ⟨"linux", "x64", "/", "host"⟩ fun _ => none)
    hload
  rw [hruns] at hverdicts
  have hde := (hverdicts 0 _ _ rfl ?_).2
  have hen := (hverdicts 1 _ _ rfl ?_).2
  · obtain ⟨k, hk, hflags, _⟩ := hde.broken (.session (.backend "grid unavailable")) rfl rfl
    obtain ⟨k', hk', hflags', hasserts', _⟩ := hen.passed (by decide +kernel) (by decide +kernel)
    refine ⟨l, hload, x, hrun, ⟨k, hk, hflags⟩, k', hk', hflags', ?_⟩
    exact hasserts'.trans (by decide +kernel)
  · rintro (_ | _ | j) e s hj he
    · cases he
      decide
    · exact absurd rfl hj
    · cases he
  · rintro (_ | _ | j) e s hj he
    · exact absurd rfl hj
    · cases he
      decide
    · cases he

end Selenese.Suite
