import Selenese.Proofs.Replay.Soften

/-!
# Selenese.Proofs.Replay.Agreement

Runs that agree at first agree to the end.

* `Replay.Ends.agrees`: from states that agree, a line ends in the same way, and what it leaves
  agrees. `Replay.ending_agrees` and `Replay.held_agrees`: so do lines.
* `Replay.run_agrees`: a run reads the session and the options, and nothing else of the state
  before. So what it does is the same with a report and without one.
-/

namespace Selenese.Replay

variable {x y : Replay}

theorem Ends.agrees {l : Line} {out : EStateM.Result Fault Replay Unit} (h : Ends l x out)
    (hxy : Agrees x y) :
    ∃ out', Ends l y out' ∧ errorOf? out' = errorOf? out ∧
      Agrees (stateAfter out) (stateAfter out') := by
  have hexecute : ∀ b : Behaviour,
      b.execute y.options l y.context = b.execute x.options l x.context := by
    intro b
    rw [hxy.options, hxy.context]
  cases h with
  | unknown hb => exact ⟨_, .unknown hb, rfl, hxy⟩
  | @done b c hb hx ha =>
    exact ⟨_, .done hb ((hexecute b).trans hx) ha, rfl, hxy.withContext c⟩
  | @passed b c hb hx ha =>
    exact ⟨_, .passed hb ((hexecute b).trans hx) ha, rfl,
      ((hxy.withContext c).tell_left _).tell_right _⟩
  | @soft b c f m n hb hx hs ha =>
    exact ⟨_, .soft hb ((hexecute b).trans hx) hs ha, rfl, (hxy.withContext c).addError m⟩
  | @fatal b c f m hb hx hs ha =>
    exact ⟨_, .fatal hb ((hexecute b).trans hx) hs ha, rfl,
      ((hxy.withContext c).tell_left _).tell_right _⟩
  | @broken b c f hb hx hs =>
    exact ⟨_, .broken hb ((hexecute b).trans hx) hs, rfl,
      ((hxy.withContext c).tell_left _).tell_right _⟩

theorem executeLine_agrees (l : Line) (h : Agrees x y) :
    errorOf? (executeLine l y) = errorOf? (executeLine l x) ∧
      Agrees (stateAfter (executeLine l x)) (stateAfter (executeLine l y)) := by
  obtain ⟨out', hout', hagrees⟩ := (executeLine_ends l x).agrees h
  rw [hout'.eq]
  exact hagrees

/-- Lines end as the first line that fails, in both runs, or well in both. -/
theorem ending_agrees (lines : List Line) (h : Agrees x y) :
    errorOf? (ending lines y) = errorOf? (ending lines x) ∧
      Agrees (stateAfter (ending lines x)) (stateAfter (ending lines y)) := by
  induction lines generalizing x y with
  | nil => exact ⟨rfl, h⟩
  | cons l rest ih =>
    have hline := executeLine_agrees l h
    rw [ending_cons, ending_cons]
    cases hx : executeLine l x with
    | ok u x' =>
      rw [hx] at hline
      obtain ⟨_, y', hy⟩ := ok_of_errorOf? hline.1
      rw [hy] at hline ⊢
      exact ih hline.2
    | error f x' =>
      rw [hx] at hline
      obtain ⟨y', hy⟩ := error_of_errorOf? hline.1
      rw [hy] at hline ⊢
      exact hline

theorem held_agrees (lines : List Line) (h : Agrees x y) : held lines y = held lines x := by
  induction lines generalizing x y with
  | nil => rfl
  | cons l rest ih =>
    have hline := executeLine_agrees l h
    rw [held, held]
    cases hx : executeLine l x with
    | ok u x' =>
      rw [hx] at hline
      obtain ⟨_, y', hy⟩ := ok_of_errorOf? hline.1
      rw [hy] at hline ⊢
      exact congrArg _ (ih hline.2)
    | error f x' =>
      rw [hx] at hline
      obtain ⟨y', hy⟩ := error_of_errorOf? hline.1
      rw [hy]

/-- Two runs of a script from one session and with the same options. -/
theorem run_agrees (s : Script) (hsession : y.session = x.session)
    (hoptions : y.options = x.options) :
    held s.lines (y.begin s) = held s.lines (x.begin s) ∧
      errorOf? (run s y) = errorOf? (run s x) ∧
      Agrees (stateAfter (run s x)) (stateAfter (run s y)) := by
  have hbegin : Agrees (x.begin s) (y.begin s) := ⟨hoptions, hsession, rfl, rfl, rfl⟩
  obtain ⟨herror, hagrees⟩ := ending_agrees s.lines hbegin
  rw [run_eq, run_eq, errorOf?_finish, errorOf?_finish]
  refine ⟨held_agrees s.lines hbegin, herror, ?_⟩
  generalize ending s.lines (x.begin s) = out at herror hagrees ⊢
  generalize ending s.lines (y.begin s) = out' at herror hagrees ⊢
  cases out <;> cases out' <;> exact hagrees.withEnd _ _ _ _

end Selenese.Replay
