import Selenese.Proofs.Command.Table
import Selenese.Replay

/-!
# Selenese.Proofs.Replay.Line

How the execution of one line can end, and how lines run one after another.

* `Replay.Ends l x r`: the line `l` may end in `r` from `x`. There are six ways: an unknown command,
  a command that was carried out, an assertion that held, a check that failed softly, an assertion
  that failed, and a breakdown.
* `Replay.executeLine_ends`: there are no other ways. In particular no assertion ends in a timeout,
  since no assertion polls. `Replay.Ends.eq`: no line ends in two ways.
* `Replay.ending_stepwise`: what every line keeps, lines keep.
-/

namespace Selenese.Replay

inductive Ends (l : Line) (x : Replay) : EStateM.Result Fault Replay Unit → Prop where
  | unknown : Command.lookup? l.command = none → Ends l x (.error (.unsupportedCommand l.command) x)
  | done {b : Behaviour} {c : Context} : Command.lookup? l.command = some b →
      b.execute x.options l x.context = .ok () c → l.isAssertion = false →
      Ends l x (.ok () (x.withContext c))
  | passed {b : Behaviour} {c : Context} : Command.lookup? l.command = some b →
      b.execute x.options l x.context = .ok () c → l.isAssertion = true →
      Ends l x (.ok () ((x.withContext c).tell (Report.passed x.test)))
  | soft {b : Behaviour} {c : Context} {f : Failure} {m : String} {n : Option Nat} :
      Command.lookup? l.command = some b → b.execute x.options l x.context = .error f c →
      softReason? f = some (m, n) → l.isAssertion = false →
      Ends l x (.ok () { x.withContext c with verificationErrors := x.verificationErrors ++ [m] })
  | fatal {b : Behaviour} {c : Context} {f : Failure} {m : String} :
      Command.lookup? l.command = some b →
      b.execute x.options l x.context = .error f c → softReason? f = some (m, none) →
      l.isAssertion = true →
      Ends l x (.error (.assertionFailed m (location c.store l))
        ((x.withContext c).tell (Report.failed x.test m (location c.store l))))
  | broken {b : Behaviour} {c : Context} {f : Failure} : Command.lookup? l.command = some b →
      b.execute x.options l x.context = .error f c → softReason? f = none →
      Ends l x (.error (faultOf f)
        ((x.withContext c).tell (Report.exception x.test (faultOf f).message (faultOf f).causes)))

/-- Only a wait that gave up counts attempts. -/
theorem softReason?_attempts {f : Failure} {m : String} {n : Nat}
    (h : softReason? f = some (m, some n)) :
    ∃ t, f = .timeout t := by
  cases f with
  | timeout t => exact ⟨t, rfl⟩
  | check _ => cases h
  | invalid _ => cases h
  | session e =>
    simp only [softReason?] at h
    split at h <;> cases h

theorem executeLine_ends (l : Line) (x : Replay) : Ends l x (executeLine l x) := by
  unfold executeLine
  cases hb : Command.lookup? l.command with
  | none => exact .unknown hb
  | some b =>
    dsimp only
    cases hx : b.execute x.options l x.context with
    | ok u c =>
      cases ha : l.isAssertion with
      | false =>
        simp only [classify, ha, conclude]
        exact Ends.done hb hx ha
      | true =>
        simp only [classify, ha, conclude]
        exact Ends.passed hb hx ha
    | error f c =>
      cases hs : softReason? f with
      | none =>
        simp only [classify, hs, conclude]
        exact Ends.broken hb hx hs
      | some reason =>
        obtain ⟨m, n⟩ := reason
        cases ha : l.isAssertion with
        | false =>
          simp only [classify, hs, ha, conclude]
          exact Ends.soft hb hx hs ha
        | true =>
          cases n with
          | none =>
            simp only [classify, hs, ha, conclude]
            exact Ends.fatal hb hx hs ha
          | some n =>
            -- a timeout: the behaviour of an assertion does not poll
            obtain ⟨t, rfl⟩ := softReason?_attempts hs
            have hfails := ((Behaviour.execute_within Session.logGrows x.options l b).error hx).2
            exact absurd rfl (hfails (Line.not_polls ha hb) t)

theorem Ends.eq {l : Line} {x : Replay} {out : EStateM.Result Fault Replay Unit}
    (h : Ends l x out) :
    executeLine l x = out := by
  cases h with
  | unknown hb => simp [executeLine, hb]
  | done hb hx ha => simp [executeLine, hb, hx, classify, ha, conclude]
  | passed hb hx ha =>
    simp only [executeLine, hb, hx, classify, ha, conclude]
    rfl
  | soft hb hx hs ha =>
    simp only [executeLine, hb, hx, classify, hs, ha, conclude]
    rfl
  | fatal hb hx hs ha =>
    simp only [executeLine, hb, hx, classify, hs, ha, conclude]
    rfl
  | broken hb hx hs =>
    simp only [executeLine, hb, hx, classify, hs, conclude]
    rfl

/-- The session is left as the command left it, however the line ends. -/
theorem Ends.session_eq {l : Line} {x : Replay} {out : EStateM.Result Fault Replay Unit}
    (h : Ends l x out) :
    (stateAfter out).session = (Command.lookup? l.command).elim x.session fun b =>
      (stateAfter (b.execute x.options l x.context)).session := by
  cases h with
  | unknown hb => rw [hb]; rfl
  | done hb hx | passed hb hx | soft hb hx | fatal hb hx | broken hb hx =>
    rw [hb, Option.elim_some, hx]
    rfl

/-- Whatever relation of sessions a call respects, a line respects. -/
theorem Ends.session {S : Session → Session → Prop} (hS : Session.Changes S) {l : Line} {x : Replay}
    {out : EStateM.Result Fault Replay Unit} (h : Ends l x out) :
    S x.session (stateAfter out).session := by
  rw [h.session_eq]
  cases Command.lookup? l.command with
  | none => exact hS.refl _
  | some b => exact ((b.execute_within hS x.options l).related x.context).session

/-! ## Lines one after another -/

/-- How lines end. -/
def ending (lines : List Line) (x : Replay) : EStateM.Result Fault Replay Unit :=
  (runLines (fun _ _ => ()) lines x).2

theorem ending_cons (l : Line) (rest : List Line) (x : Replay) :
    ending (l :: rest) x =
      match executeLine l x with
      | .ok () x' => ending rest x'
      | .error f x' => .error f x' := by
  rw [ending, runLines]
  cases executeLine l x <;> rfl

/-- What every line keeps, lines keep. -/
theorem ending_stepwise {R : Replay → Replay → Prop} (hR : Stepwise R)
    (hline : ∀ l x, R x (stateAfter (executeLine l x))) (lines : List Line) (x : Replay) :
    R x (stateAfter (ending lines x)) := by
  induction lines generalizing x with
  | nil => exact hR.refl x
  | cons l rest ih =>
    have hfirst := hline l x
    rw [ending_cons]
    cases hl : executeLine l x with
    | ok u x' =>
      rw [hl] at hfirst
      exact hR.trans hfirst (ih x')
    | error f x' =>
      rw [hl] at hfirst
      exact hfirst

theorem ending_session {S : Session → Session → Prop} (hS : Session.Changes S) (lines : List Line)
    (x : Replay) : S x.session (stateAfter (ending lines x)).session :=
  ending_stepwise (R := fun x y => S x.session y.session) ⟨fun x => hS.refl x.session, hS.trans⟩
    (fun l x => (executeLine_ends l x).session hS) lines x

/-! ## Whole runs -/

theorem run_eq (s : Script) (x : Replay) : run s x = finish (ending s.lines (x.begin s)) := rfl

theorem errorOf?_finish (out : EStateM.Result Fault Replay Unit) :
    errorOf? (finish out) = errorOf? out := by
  cases out <;> rfl

theorem report_finish (out : EStateM.Result Fault Replay Unit) :
    (stateAfter (finish out)).report = (stateAfter out).report := by
  cases out <;> rfl

theorem session_finish (out : EStateM.Result Fault Replay Unit) :
    (stateAfter (finish out)).session = (stateAfter out).session := by
  cases out <;> rfl

end Selenese.Replay
