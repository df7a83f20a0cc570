import Selenese.Proofs.Replay.Passage

/-!
# Selenese.Proofs.Replay.Fresh

One replay used for many runs.

* `Replay.Use`: a run of a script, or a single line. `Replay.useAll` uses a replay several times.
* `Replay.unreported` is a replay but for its report, `Replay.forget` an ending but for the report.
* `Replay.runLines_unreported`: what lines do, and what is noted before them, does not depend on the
  report. `Replay.runNoting_eq_of_begin`: so it is settled where a run begins.
* `Replay.run_like_fresh`: after any uses, a run is like the first run of a new replay on the same
  session, and it executes the lines up to the first fatal one.
-/

namespace Selenese.Replay

def unreported (x : Replay) : Replay := { x with report := none }

def forget : EStateM.Result Fault Replay Unit → EStateM.Result Fault Replay Unit
  | .ok () x => .ok () x.unreported
  | .error f x => .error f x.unreported

theorem stateAfter_forget (out : EStateM.Result Fault Replay Unit) :
    stateAfter (forget out) = (stateAfter out).unreported := by
  cases out <;> rfl

/-! ## Runs without a report -/

theorem Ends.unreported {l : Line} {x : Replay} {out : EStateM.Result Fault Replay Unit}
    (h : Ends l x out) : Ends l x.unreported (forget out) := by
  cases h with
  | unknown hb => exact .unknown hb
  | done hb hx ha => exact .done hb hx ha
  | passed hb hx ha => exact .passed hb hx ha
  | soft hb hx hs ha => exact .soft hb hx hs ha
  | fatal hb hx hs ha => exact .fatal hb hx hs ha
  | broken hb hx hs => exact .broken hb hx hs

theorem executeLine_unreported (l : Line) (x : Replay) :
    executeLine l x.unreported = forget (executeLine l x) :=
  (executeLine_ends l x).unreported.eq

theorem runLines_unreported {α : Type} (before : Line → Session → α) (lines : List Line)
    (x : Replay) :
    runLines before lines x.unreported =
      ((runLines before lines x).1, forget (runLines before lines x).2) := by
  induction lines generalizing x with
  | nil => rfl
  | cons l rest ih =>
    rw [runLines, runLines, executeLine_unreported]
    cases executeLine l x with
    | ok u x' =>
      dsimp only [forget]
      rw [ih]
      rfl
    | error f x' => rfl

theorem forget_finish (out : EStateM.Result Fault Replay Unit) :
    forget (finish out) = finish (forget out) := by
  cases out <;> rfl

theorem runNoting_eq {α : Type} (before : Line → Session → α) (s : Script) (x : Replay) :
    runNoting before s x =
      ((passage s.lines (x.begin s)).map fun p => before p.1 p.2.session, run s x) := by
  rw [runNoting, runLines_eq]
  rfl

theorem run_unreported (s : Script) (x : Replay) : run s x.unreported = forget (run s x) := by
  have hending : ending s.lines (x.begin s).unreported = forget (ending s.lines (x.begin s)) :=
    congrArg Prod.snd (runLines_unreported (fun _ _ => ()) s.lines (x.begin s))
  rw [run_eq, run_eq, forget_finish, ← hending]
  rfl

/-! ## Many uses -/

inductive Use where
  | run (s : Script)
  | line (l : Line)

/-- A replay after it was used, in whatever way the use ended. -/
def Use.apply : Use → Replay → Replay
  | run s, x => stateAfter (Replay.run s x)
  | line l, x => stateAfter (executeLine l x)

def useAll (uses : List Use) (x : Replay) : Replay := uses.foldl (fun x u => u.apply x) x

theorem Use.apply_unreported (u : Use) (x : Replay) :
    u.apply x.unreported = (u.apply x).unreported := by
  cases u with
  | run s => rw [apply, run_unreported, stateAfter_forget, apply]
  | line l => rw [apply, executeLine_unreported, stateAfter_forget, apply]

theorem useAll_unreported (uses : List Use) (x : Replay) :
    useAll uses x.unreported = (useAll uses x).unreported := by
  induction uses generalizing x with
  | nil => rfl
  | cons u rest ih => exact (congrArg (useAll rest) (u.apply_unreported x)).trans (ih (u.apply x))

/-- No use changes what a replay is for. -/
def SamePurpose (x y : Replay) : Prop := y.test = x.test ∧ y.options = x.options

theorem samePurpose_stepwise : Stepwise SamePurpose :=
  ⟨fun _ => ⟨rfl, rfl⟩, fun h h' => ⟨h'.1.trans h.1, h'.2.trans h.2⟩⟩

theorem Ends.samePurpose {l : Line} {x : Replay} {out : EStateM.Result Fault Replay Unit}
    (h : Ends l x out) : SamePurpose x (stateAfter out) := by
  cases h <;> exact ⟨rfl, rfl⟩

theorem Use.samePurpose (u : Use) (x : Replay) : SamePurpose x (u.apply x) := by
  cases u with
  | line l => exact (executeLine_ends l x).samePurpose
  | run s =>
    have hlines := ending_stepwise samePurpose_stepwise
      (fun l x => (executeLine_ends l x).samePurpose) s.lines (x.begin s)
    rw [apply, run_eq]
    generalize ending s.lines (x.begin s) = out at hlines ⊢
    cases out <;> exact hlines

theorem useAll_samePurpose (uses : List Use) (x : Replay) : SamePurpose x (useAll uses x) := by
  induction uses generalizing x with
  | nil => exact samePurpose_stepwise.refl x
  | cons u rest ih => exact samePurpose_stepwise.trans (u.samePurpose x) (ih (u.apply x))

/-- A run forgets everything but the test, the options, the session and the report. -/
theorem begin_unreported {x y : Replay} (s : Script) (h : SamePurpose x y)
    (hsession : y.session = x.session) : (y.begin s).unreported = (x.begin s).unreported := by
  simp only [begin, unreported, h.1, h.2, hsession]

theorem runNoting_eq_of_begin {α : Type} (before : Line → Session → α) {s : Script} {x y : Replay}
    (h : (x.begin s).unreported = (y.begin s).unreported) :
    (runNoting before s x).1 = (runNoting before s y).1 ∧
      forget (runNoting before s x).2 = forget (runNoting before s y).2 := by
  have hlines := runLines_unreported before s.lines (x.begin s)
  rw [h, runLines_unreported, Prod.mk.injEq] at hlines
  refine ⟨hlines.1.symm, ?_⟩
  rw [runNoting, runNoting, forget_finish, forget_finish, hlines.2]

theorem phase_run (s : Script) (x : Replay) : (stateAfter (run s x)).phase = .completed := by
  rw [run_eq]
  cases ending s.lines (x.begin s) <;> rfl

/-- **A run is like the first run of a new replay.** A replay is used for runs and single lines, which
end in any way. A further run then ends like the first run of a new replay for the same test, with
the same options and on the same session, whether one of them has a report or not: with the same
fault or none, and in the same state but for the report; and the same is noted before its lines. The
notes are taken once before each executed line, in order, of that line and of the session as the
lines before it left it. The executed lines are all lines of the script if the run ends well, and
otherwise the first lines up to a fatal one. A run is completed in both cases. -/
theorem run_like_fresh {α : Type} (test : TestId) (options : Options) (session : Session)
    (report : Option Report) (uses : List Use) (s : Script) (before : Line → Session → α) :
    let x := useAll uses (ready test options session report)
    let out := run s x
    let executed := passage s.lines (x.begin s)
    (∀ report', (useAll uses (ready test options session report')).unreported = x.unreported) ∧
      (∀ report', let y := ready test options x.session report'
        (runNoting before s y).1 = (runNoting before s x).1 ∧ forget (run s y) = forget out) ∧
      (runNoting before s x).1 = executed.map (fun p => before p.1 p.2.session) ∧
      (runNoting before s x).2 = out ∧
      (∀ k p, executed[k]? = some p →
        s.lines[k]? = some p.1 ∧ ending (s.lines.take k) (x.begin s) = .ok () p.2) ∧
      (errorOf? out = none → executed.map Prod.fst = s.lines) ∧
      (∀ f, errorOf? out = some f →
        ∃ l y, executed.getLast? = some (l, y) ∧ errorOf? (executeLine l y) = some f) ∧
      (stateAfter out).phase = .completed := by
  intro x out executed
  refine ⟨?_, ?_, ?_, ?_, fun k p => of_getElem?_passage, ?_, ?_, phase_run s x⟩
  · intro report'
    rw [← useAll_unreported, ← useAll_unreported]
    rfl
  · intro report' y
    -- but for the reports, both runs begin in one state
    have hpurpose : SamePurpose y x := useAll_samePurpose uses (ready test options session report)
    have hsame := runNoting_eq_of_begin before (begin_unreported s hpurpose rfl).symm
    rw [runNoting_eq before s y, runNoting_eq before s x] at hsame ⊢
    exact hsame
  · rw [runNoting_eq]
  · rw [runNoting_eq]
  · intro h
    exact map_fst_passage ((errorOf?_finish _).symm.trans h)
  · intro f h
    obtain ⟨x', hx⟩ := error_of_errorOf? ((errorOf?_finish _).symm.trans h)
    obtain ⟨l, y, hlast, hy⟩ := last_passage hx
    exact ⟨l, y, hlast, by rw [hy]; rfl⟩

end Selenese.Replay
