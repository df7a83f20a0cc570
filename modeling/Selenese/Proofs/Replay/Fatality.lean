import Selenese.Proofs.Command.Recorded
import Selenese.Proofs.Replay.Noted

/-!
# Selenese.Proofs.Replay.Fatality

Which failures end a run.

* `Replay.AbortsAt s x i`: the run of the script `s` from `x` ends with a fault at its line number
  `i`, and no later line is executed. `Replay.abortsAt_iff`: so it does exactly if this line ends
  with a fault.
* `Replay.executeLine_noted`: where the command of a line fails softly, the line ends with a fault
  exactly if it is an assertion.
* `Replay.executeLine_held`: where the command is carried out, the line ends well, and the report is
  told so exactly if the line is an assertion.
* `Replay.fatal_as_recorded`: both are decided by the name under which the command is recorded.
-/

namespace Selenese.Replay

def AbortsAt (s : Script) (x : Replay) (i : Nat) : Prop :=
  errorOf? (run s x) ≠ none ∧ (passage s.lines (x.begin s)).length = i + 1

theorem passage_ne_nil (l : Line) (rest : List Line) (x : Replay) : passage (l :: rest) x ≠ [] :=
  List.cons_ne_nil _ _

/-- Lines end with a fault at the line that does, and there only. -/
theorem ending_stops_iff {lines : List Line} {x y : Replay} {i : Nat} {l : Line}
    (h : (passage lines x)[i]? = some (l, y)) :
    errorOf? (ending lines x) ≠ none ∧ (passage lines x).length = i + 1 ↔
      errorOf? (executeLine l y) ≠ none := by
  induction lines generalizing x i with
  | nil => simp [passage] at h
  | cons first rest ih =>
    rw [ending_cons]
    cases hfirst : executeLine first x with
    | ok u x' =>
      rw [passage_of_ok hfirst] at h ⊢
      cases i with
      | succ i => simpa using ih h
      | zero =>
        obtain ⟨rfl, rfl⟩ : first = l ∧ x = y := by simpa using h
        dsimp only
        rw [hfirst]
        -- what is left to execute ends well only if there is nothing left
        cases rest with
        | nil => simp [ending, runLines, passage, errorOf?]
        | cons l' rest' => simp [passage_ne_nil, errorOf?]
    | error f x' =>
      rw [passage_of_error hfirst] at h ⊢
      cases i with
      | succ i => simp at h
      | zero =>
        obtain ⟨rfl, rfl⟩ : first = l ∧ x = y := by simpa using h
        simp [hfirst, errorOf?]

theorem abortsAt_iff {s : Script} {x y : Replay} {i : Nat} {l : Line}
    (h : (passage s.lines (x.begin s))[i]? = some (l, y)) :
    AbortsAt s x i ↔ errorOf? (executeLine l y) ≠ none := by
  rw [AbortsAt, run_eq, errorOf?_finish]
  exact ending_stops_iff h

section

variable {l : Line} {x : Replay}

theorem executeLine_noted {f : Failure} {m : String} (hf : failure? l x = some f) (hm : f.Noted m) :
    errorOf? (executeLine l x) ≠ none ↔ l.isAssertion = true := by
  obtain ⟨b, c, hb, hx⟩ := failure?_eq_some.1 hf
  obtain ⟨⟨m', n⟩, hsoft, rfl⟩ := Option.map_eq_some_iff.1 (softReason?_map_fst.2 hm)
  simp only [executeLine, hb, hx, classify, hsoft]
  cases l.isAssertion <;> simp [conclude, errorOf?]

theorem executeLine_held {b : Behaviour} (hb : Command.lookup? l.command = some b)
    (hf : failure? l x = none) :
    errorOf? (executeLine l x) = none ∧ (stateAfter (executeLine l x)).report =
      if l.isAssertion = true then x.report.map (Report.passed x.test) else x.report := by
  rw [failure?, hb, Option.bind_some] at hf
  obtain ⟨u, c, hx⟩ := ok_of_errorOf? hf
  simp only [executeLine, hb, hx, classify]
  cases l.isAssertion <;> simp [conclude, errorOf?, stateAfter, withContext, tell]

end

/-- **Whether a failure is fatal is decided by the name in the table.** A command is known under a
single recorded name, whatever letters of its own it is spelled with, and the line begins with
`assert` exactly if this name does. So from whatever state the line is executed: where its command
fails softly, by a check that does not hold, a missing element or a wait that gave up, the line ends
with a fault exactly if the name is one of an assertion, and notes the failure exactly if it is not;
a run that comes to the line is then aborted there, or not. Where the command is carried out, the
report is told of a passed assertion exactly if the name is one. -/
theorem fatal_as_recorded {l : Line} {b : Behaviour} (h : Command.lookup? l.command = some b) :
    ∃ name, Command.RecordedAs l.command name b ∧
      (l.isAssertion = true ↔ Command.Asserts name) ∧
      (∀ x f m, failure? l x = some f → f.Noted m →
        (errorOf? (executeLine l x) ≠ none ↔ Command.Asserts name) ∧
        (note? l x = some m ↔ ¬ Command.Asserts name) ∧
        ∀ s y i, (passage s.lines (y.begin s))[i]? = some (l, x) →
          (AbortsAt s y i ↔ Command.Asserts name)) ∧
      ∀ x, failure? l x = none →
        errorOf? (executeLine l x) = none ∧
        (stateAfter (executeLine l x)).report =
          if Command.Asserts name then x.report.map (Report.passed x.test) else x.report := by
  obtain ⟨name, hname⟩ := Command.recordedAs_of_lookup? h
  have hassert : l.isAssertion = true ↔ Command.Asserts name := Line.isAssertion_iff_asserts hname
  refine ⟨name, hname, hassert, ?_, ?_⟩
  · intro x f m hf hm
    have hfatal : errorOf? (executeLine l x) ≠ none ↔ Command.Asserts name :=
      (executeLine_noted hf hm).trans hassert
    refine ⟨hfatal, ?_, fun s y i hi => (abortsAt_iff hi).trans hfatal⟩
    rw [note?_eq_some, ← hassert, Bool.not_eq_true]
    exact and_iff_left ⟨f, hf, hm⟩
  · intro x hx
    obtain ⟨hwell, hreport⟩ := executeLine_held h hx
    refine ⟨hwell, hreport.trans ?_⟩
    simp only [hassert]

/-- Neither line finds its element. The Kelvin sign is lowered to `k`, so the first is known, as no
assertion. -/
theorem fatal_as_recorded_kelvin :
    let x := Replay.ready ⟨"S", "f", "t"⟩ .standard .empty none
    let clicking : Line := ⟨"CLIC\u212a", "id=buy", ""⟩
    let asserting : Line := ⟨"ASSERTText", "id=buy", ""⟩
    Command.lookup? clicking.command = some .click ∧ errorOf? (executeLine clicking x) = none ∧
      Command.lookup? asserting.command = some .checkValueOrText ∧
      errorOf? (executeLine asserting x) ≠ none := by
  intro x clicking asserting
  have hmissing : Failure.Noted (.session (.noSuchElement "id=buy"))
      (SessionError.noSuchElement "id=buy").message := .missing "id=buy"
  have hlower : Text.lowercase clicking.command = "click" := by decide +kernel
  have hlower' : Text.lowercase asserting.command = "asserttext" := by decide +kernel
  have hclick : Command.lookup? clicking.command = some .click := by
    rw [Command.lookup?_eq, hlower]
    decide +kernel
  have hassert : Command.lookup? asserting.command = some .checkValueOrText := by
    rw [Command.lookup?_eq, hlower']
    decide +kernel
  have hfails : failure? clicking x = some (.session (.noSuchElement "id=buy")) := by
    rw [failure?, hclick]
    decide +kernel
  have hfails' : failure? asserting x = some (.session (.noSuchElement "id=buy")) := by
    rw [failure?, hassert]
    decide +kernel
  obtain ⟨name, hname, -, hsoft, -⟩ := fatal_as_recorded hclick
  obtain ⟨name', hname', -, hsoft', -⟩ := fatal_as_recorded hassert
  have hclicks : ("click", .click) = (name, Behaviour.click) :=
    hname.unique _ (by decide) (by rw [hlower]; decide +kernel)
  have hasserts : ("assertText", .checkValueOrText) = (name', Behaviour.checkValueOrText) :=
    hname'.unique _ (by decide) (by rw [hlower']; decide +kernel)
  obtain ⟨hfatal, -⟩ := hsoft x _ _ hfails hmissing
  obtain ⟨hfatal', -⟩ := hsoft' x _ _ hfails' hmissing
  cases hclicks
  cases hasserts
  refine ⟨hclick, ?_, hassert, hfatal'.2 (by decide)⟩
  by_contra hne
  exact absurd (hfatal.1 hne) (by decide)

end Selenese.Replay
