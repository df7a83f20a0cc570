import Selenese.Proofs.Replay.Agreement

/-!
# Selenese.Proofs.Replay.Passage

The lines that are executed, up to the first fatal one.

* `Replay.passage`: these lines, each with the state from which it is executed.
* `Replay.of_getElem?_passage`: they are the first lines, and each is executed from what the lines
  before it left.
* `Replay.map_fst_passage` and `Replay.last_passage`: these are all lines if the lines end well;
  otherwise the last one is fatal.
* `Replay.runLines_eq`: before each of them, and no others, a note is taken.
-/

namespace Selenese.Replay

def passage : List Line → Replay → List (Line × Replay)
  | [], _ => []
  | l :: rest, x =>
    (l, x) ::
      match executeLine l x with
      | .ok () x' => passage rest x'
      | .error _ _ => []

theorem passage_of_ok {l : Line} {x x' : Replay} (h : executeLine l x = .ok () x')
    (rest : List Line) : passage (l :: rest) x = (l, x) :: passage rest x' := by
  rw [passage, h]

theorem passage_of_error {l : Line} {x x' : Replay} {f : Fault} (h : executeLine l x = .error f x')
    (rest : List Line) : passage (l :: rest) x = [(l, x)] := by
  rw [passage, h]

theorem runLines_eq {α : Type} (before : Line → Session → α) (lines : List Line) (x : Replay) :
    runLines before lines x =
      ((passage lines x).map fun p => before p.1 p.2.session, ending lines x) := by
  induction lines generalizing x with
  | nil => rfl
  | cons l rest ih =>
    rw [runLines, ending_cons]
    cases h : executeLine l x with
    | ok u x' =>
      dsimp only
      rw [passage_of_ok h, List.map_cons, ih]
    | error f x' =>
      rw [passage_of_error h]
      rfl

theorem of_getElem?_passage {lines : List Line} {x : Replay} {k : Nat} {p : Line × Replay}
    (h : (passage lines x)[k]? = some p) :
    lines[k]? = some p.1 ∧ ending (lines.take k) x = .ok () p.2 := by
  induction lines generalizing x k with
  | nil => cases h
  | cons l rest ih =>
    cases k with
    | zero =>
      cases h
      exact ⟨rfl, rfl⟩
    | succ k =>
      rw [List.take_succ_cons, ending_cons]
      cases hl : executeLine l x with
      | ok u x' =>
        rw [passage_of_ok hl] at h
        exact ih h
      | error f x' =>
        rw [passage_of_error hl] at h
        cases h

theorem map_fst_passage {lines : List Line} {x : Replay} (h : errorOf? (ending lines x) = none) :
    (passage lines x).map Prod.fst = lines := by
  induction lines generalizing x with
  | nil => rfl
  | cons l rest ih =>
    rw [ending_cons] at h
    cases hl : executeLine l x with
    | ok u x' =>
      rw [hl] at h
      rw [passage_of_ok hl, List.map_cons, ih h]
    | error f x' =>
      rw [hl] at h
      cases h

theorem last_passage {lines : List Line} {x x' : Replay} {f : Fault}
    (h : ending lines x = .error f x') :
    ∃ l y, (passage lines x).getLast? = some (l, y) ∧ executeLine l y = .error f x' := by
  induction lines generalizing x with
  | nil => cases h
  | cons l rest ih =>
    rw [ending_cons] at h
    cases hl : executeLine l x with
    | ok u x'' =>
      rw [hl] at h
      obtain ⟨l', y, hlast, hy⟩ := ih h
      refine ⟨l', y, ?_, hy⟩
      rw [passage_of_ok hl, List.getLast?_cons, hlast]
      rfl
    | error f' x'' =>
      rw [hl] at h
      refine ⟨l, x, ?_, hl.trans h⟩
      rw [passage_of_error hl]
      rfl

end Selenese.Replay
