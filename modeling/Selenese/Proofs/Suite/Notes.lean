import Selenese.Proofs.Replay.Noted
import Selenese.Proofs.Suite.Verdict

/-!
# Selenese.Proofs.Suite.Notes

The verification errors that a report tells of a test.

* `Course.properties_events`: of a course, a report is told one property for each verification
  error.
* `Course.messages_of`: these are the verification errors of a run, whatever report it tells.
* `liveRun_notes`: after a live run, the properties of a test case are the verification errors of the
  runs of its test, in order.
-/

namespace Selenese.Suite

open Report (Event TestCase toldAll)
open Replay (failure? note? passage)

namespace Course

theorem properties_events (c : Course) :
    c.events.filterMap Event.property? = c.messages.map (verificationProperty, ·) := by
  have hpassed : (List.replicate c.held Event.passed).filterMap Event.property? = [] := by
    rw [List.filterMap_replicate]; rfl
  have hfault : (c.fault.elim [] Fault.told).filterMap Event.property? = [] := by
    rw [List.filterMap_eq_nil_iff]
    intro e he
    rcases Replay.mem_told he with h | h <;> cases e <;> first | rfl | cases h
  have hmessages : (c.messages.filterMap fun m => (Event.property verificationProperty m).property?) =
      c.messages.map (verificationProperty, ·) := by
    rw [← List.filterMap_eq_map]
    rfl
  rw [filterMap_parts, hpassed, hfault, hmessages]
  cases c.fault.any Fault.isUnknownCommand <;> exact List.append_nil _

theorem messages_of (options : Options) (d : TestId) (s : Script) (session : Session)
    (report : Option Report) :
    (Course.of options d s (.ok session)).messages =
      (stateAfter (Replay.run s (.ready d options session report))).verificationErrors :=
  (Replay.run_agrees (x := .ready d options session none) (y := .ready d options session report) s
    rfl rfl).2.2.verificationErrors.symm

end Course

/-- What the courses of tests leave in a report that was empty. -/
theorem properties_courses (cs : List (TestId × Course)) (name : String) (created : Stamp)
    (environment : Report.Environment) (d : TestId) :
    let r := Report.writeAll (toldAll 0 (cs.map fun c => (c.1, c.2.events)))
      (.create name created environment)
    (r.testCase? d).elim [] TestCase.properties =
      (cs.filter fun c => c.1.SameAs d).flatMap fun c =>
        c.2.messages.map (verificationProperty, ·) := by
  intro r
  have hanswers := Report.answers_writeAll d (toldAll 0 (cs.map fun c => (c.1, c.2.events))) []
    (.create name created environment) rfl
  rw [hanswers.properties, List.nil_append, Report.entriesOf_toldAll, Report.filterMap_toldAll,
    List.filter_map, List.flatMap_map]
  simp only [Course.properties_events]
  rfl

/-- **No verification error is lost or repeated.** Whatever the settings, the scripts that were loaded
and the way sessions are opened: after a live run, the properties of the test case of a test are the
verification errors of its runs, in the order of the runs, and in the order in which each run noted
them; there are none if there is no test case. A run without a session notes nothing. Any other
notes what its executed lines note, in order, whatever report it tells. A line is noted exactly if
it is no assertion and its command ends in a failure that is noted. -/
theorem liveRun_notes {σ : Type} (openSession : String → StateM σ (Except SessionError Session))
    (read : String → StateM σ (Except FileError String)) (settings : Settings)
    (path name : String) (created : Stamp) (environment : Report.Environment) {l : Loaded}
    {t t₀ : σ} (hload : load read settings path t = (.ok l, t₀)) :
    let runs := tests settings (nameOf path) l.entries
    let cs := courses openSession settings.options runs t₀
    (∃ x t', liveRun read settings openSession path (.create name created environment) t =
        (.ok x, t') ∧
      ∀ d, (x.report.testCase? d).elim [] TestCase.properties =
        (cs.filter fun c => c.1.SameAs d).flatMap fun c =>
          c.2.messages.map (verificationProperty, ·)) ∧
      (∀ d s e, (Course.of settings.options d s (.error e)).messages = []) ∧
      (∀ d s session report,
        let x := Replay.ready d settings.options session report
        (Course.of settings.options d s (.ok session)).messages =
            (stateAfter (Replay.run s x)).verificationErrors ∧
          (stateAfter (Replay.run s x)).verificationErrors =
            (passage s.lines (x.begin s)).filterMap fun p => note? p.1 p.2) ∧
      ∀ (line : Line) x m, note? line x = some m ↔
        line.isAssertion = false ∧ ∃ f, (∃ b c, Command.lookup? line.command = some b ∧
          b.execute x.options line x.context = .error f c) ∧ f.Noted m := by
  intro runs cs
  refine ⟨⟨_, _, liveRun_loaded openSession hload _, ?_⟩, fun _ _ _ => rfl, ?_, ?_⟩
  · intro d
    obtain ⟨_, hreport, _⟩ := liveTests_courses openSession settings.options runs
      ⟨l.summary, .create name created environment, []⟩ t₀
    rw [hreport]
    exact properties_courses cs name created environment d
  · intro d s session report x
    exact ⟨Course.messages_of _ d s session report, Replay.verificationErrors_run s x⟩
  · intro line x m
    rw [Replay.note?_eq_some]
    simp only [Replay.failure?_eq_some]

/-- One script with two spellings of a fixture: both runs note the title of an empty page, and then
end at an assertion of the same. -/
theorem liveRun_notes_title :
    let suite := "<table class=selenium><tr><td><a href=home>Home</a></table>"
    let script := "<table><tr><td>verifyTitle<td>Home<td><tr><td>assertTitle<td>Home<td></table>"
    let files : String → Except FileError String :=
      fun path => .ok (if path = "suite" then suite else script)
    let settings : Settings := { Settings.standard with combinations := ["en", "EN"] }
    let openSession : String → StateM Unit (Except SessionError Session) := fun _ _ => (.ok .empty, ())
    let report := Report.create "Shop" ⟨"2024-05-01", "12:00:00"⟩
      (.capture ⟨"linux", "x64", "/", "host"⟩ fun _ => none)
    ∃ l, (load (fun p => pure (files p)) settings "suite" : StateM Unit (Except Fault Loaded)) () =
        (.ok l, ()) ∧
      ∃ x t', liveRun (fun p => pure (files p)) settings openSession "suite" report () = (.ok x, t') ∧
        (x.report.testCase? ⟨"suite", "en", "home"⟩).elim [] TestCase.properties =
          List.replicate 2 (verificationProperty, "expected title 'Home' but was ''") := by
  intro suite script files settings openSession report
  have hlinks : Link.parse suite = .ok [⟨"Home", "home"⟩] := ok_of_toOption (by decide +kernel)
  let l := loadedOf ([⟨"Home", "home"⟩].map fun link =>
    let place := Path.join (Path.folder "suite") link.target
    entryOf? settings link place (files place))
  have hload : (load (fun p => pure (files p)) settings "suite" :
      StateM Unit (Except Fault Loaded)) () = (.ok l, ()) :=
    congrFun (load_files files settings "suite" rfl hlinks) ()
  let home : Script :=
    ⟨Script.untitled, "", [⟨"verifyTitle", "Home", ""⟩, ⟨"assertTitle", "Home", ""⟩]⟩
  have hruns : tests settings (nameOf "suite") l.entries =
      [(⟨"suite", "en", "Home"⟩, home), (⟨"suite", "EN", "Home"⟩, home)] := by decide +kernel
  obtain ⟨⟨x, t', hrun, hproperties⟩, _⟩ := liveRun_notes openSession (fun p => pure (files p))
    settings "suite" "Shop" ⟨"2024-05-01", "12:00:00"⟩
    (.capture ⟨"linux", "x64", "/", "host"⟩ fun _ => none) hload
  rw [hruns] at hproperties
  have hcourses : ((courses openSession settings.options
      [(⟨"suite", "en", "Home"⟩, home), (⟨"suite", "EN", "Home"⟩, home)] ()).filter
        fun c => c.1.SameAs ⟨"suite", "en", "home"⟩).flatMap (fun c =>
          c.2.messages.map (verificationProperty, ·)) =
      List.replicate 2 (verificationProperty, "expected title 'Home' but was ''") := by
    decide +kernel
  exact ⟨l, hload, x, t', hrun, (hproperties _).trans hcourses⟩

end Selenese.Suite
