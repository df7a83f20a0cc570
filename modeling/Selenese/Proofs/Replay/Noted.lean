import Selenese.Proofs.Replay.Passage

/-!
# Selenese.Proofs.Replay.Noted

The verification errors of a run.

* `Failure.Noted f m`: the failure `f` speaks about the page, and `m` is what is noted of it.
* `Replay.failure? l x`: the failure in which the command of the line `l` ends.
* `Replay.note? l x`: what is noted of the line. `Replay.note?_eq_some`: there is a note exactly if
  the line is no assertion and its failure is one that is noted.
* `Replay.verificationErrors_run`: a run notes what its executed lines note, in order.
-/

namespace Selenese

/-- A missing element and an assertion that a session made may stand under one wrapper, which is
left out of the message. -/
inductive Failure.Noted : Failure → String → Prop where
  | check (m : String) : Noted (.check m) m
  | timeout (t : Timeout) : Noted (.timeout t) t.message
  | missing (l : String) : Noted (.session (.noSuchElement l)) (SessionError.noSuchElement l).message
  | failed (m : String) :
      Noted (.session (.assertionFailed m)) (SessionError.assertionFailed m).message
  | wrappedMissing (c l : String) :
      Noted (.session (.wrapped c (.noSuchElement l))) (SessionError.noSuchElement l).message
  | wrappedFailed (c m : String) :
      Noted (.session (.wrapped c (.assertionFailed m))) (SessionError.assertionFailed m).message

namespace Replay

theorem softReason?_map_fst {f : Failure} {m : String} :
    (softReason? f).map Prod.fst = some m ↔ f.Noted m := by
  constructor
  · intro h
    cases f with
    | check m' =>
      cases h
      exact .check m'
    | timeout t =>
      cases h
      exact .timeout t
    | invalid m' => cases h
    | session e =>
      cases e with
      | noSuchElement l =>
        cases h
        exact .missing l
      | assertionFailed m' =>
        cases h
        exact .failed m'
      | unsupported c => cases h
      | backend m' => cases h
      | wrapped c e =>
        cases e with
        | noSuchElement l =>
          cases h
          exact .wrappedMissing c l
        | assertionFailed m' =>
          cases h
          exact .wrappedFailed c m'
        | unsupported c' => cases h
        | backend m' => cases h
        | wrapped c' e' => cases h
  · intro h
    cases h <;> rfl

/-! ## One line -/

def failure? (l : Line) (x : Replay) : Option Failure :=
  (Command.lookup? l.command).bind fun b => errorOf? (b.execute x.options l x.context)

def note? (l : Line) (x : Replay) : Option String :=
  if l.isAssertion then none else (failure? l x).bind fun f => (softReason? f).map Prod.fst

theorem failure?_eq_some {l : Line} {x : Replay} {f : Failure} :
    failure? l x = some f ↔ ∃ b c, Command.lookup? l.command = some b ∧
      b.execute x.options l x.context = .error f c := by
  rw [failure?, Option.bind_eq_some_iff]
  constructor
  · rintro ⟨b, hb, hf⟩
    obtain ⟨c, hc⟩ := error_of_errorOf? hf
    exact ⟨b, c, hb, hc⟩
  · rintro ⟨b, c, hb, hc⟩
    exact ⟨b, hb, by rw [hc]; rfl⟩

theorem note?_eq_some {l : Line} {x : Replay} {m : String} :
    note? l x = some m ↔ l.isAssertion = false ∧ ∃ f, failure? l x = some f ∧ f.Noted m := by
  cases ha : l.isAssertion with
  | true => simp [note?, ha]
  | false => simp [note?, ha, Option.bind_eq_some_iff, ← softReason?_map_fst]

theorem Ends.verificationErrors {l : Line} {x : Replay} {out : EStateM.Result Fault Replay Unit}
    (h : Ends l x out) :
    (stateAfter out).verificationErrors = x.verificationErrors ++ (note? l x).toList := by
  cases h with
  | unknown hb => simp [note?, failure?, hb, stateAfter]
  | done hb hx ha => simp [note?, failure?, hb, hx, ha, errorOf?, stateAfter, withContext]
  | passed hb hx ha => simp [note?, ha, stateAfter, withContext, tell]
  | soft hb hx hs ha => simp [note?, failure?, hb, hx, hs, ha, errorOf?, stateAfter]
  | fatal hb hx hs ha => simp [note?, ha, stateAfter, withContext, tell]
  | broken hb hx hs => simp [note?, failure?, hb, hx, hs, errorOf?, stateAfter, withContext, tell]

theorem verificationErrors_ending (lines : List Line) (x : Replay) :
    (stateAfter (ending lines x)).verificationErrors =
      x.verificationErrors ++ (passage lines x).filterMap fun p => note? p.1 p.2 := by
  induction lines generalizing x with
  | nil => exact (List.append_nil _).symm
  | cons l rest ih =>
    have hline := (executeLine_ends l x).verificationErrors
    rw [ending_cons]
    cases hl : executeLine l x with
    | ok u x' =>
      rw [hl] at hline
      have hfirst : x'.verificationErrors = x.verificationErrors ++ (note? l x).toList := hline
      dsimp only
      rw [ih, hfirst, passage_of_ok hl, List.append_assoc]
      cases h : note? l x <;> simp [h]
    | error f x' =>
      rw [hl] at hline
      rw [passage_of_error hl]
      cases h : note? l x <;> simpa [h] using hline

theorem verificationErrors_run (s : Script) (x : Replay) :
    (stateAfter (run s x)).verificationErrors =
      (passage s.lines (x.begin s)).filterMap fun p => note? p.1 p.2 := by
  have hlines := verificationErrors_ending s.lines (x.begin s)
  rw [run_eq]
  generalize ending s.lines (x.begin s) = out at hlines ⊢
  cases out <;> exact hlines

end Replay

end Selenese
