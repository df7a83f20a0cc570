/-!
# Selenese.Text.Shift

Maps of characters that move a run of code points by one distance. `Shift.apply` looks a character up in a
list of runs and leaves it alone when none holds it; `Shift.sources` are the characters moved onto a given one.
-/

namespace Selenese.Text

/-- Moves `lo`, `lo + step`, … up to `hi` so that `lo` becomes `image`. -/
structure Shift where
  lo : Nat
  hi : Nat
  step : Nat
  image : Nat

namespace Shift

def image? (s : Shift) (n : Nat) : Option Nat :=
  if s.lo ≤ n ∧ n ≤ s.hi ∧ (n - s.lo) % s.step = 0 then some (n - s.lo + s.image) else none

/-- The code point that the run moves onto `n`. -/
def source? (s : Shift) (n : Nat) : Option Nat :=
  if s.image ≤ n ∧ n - s.image + s.lo ≤ s.hi ∧ (n - s.image) % s.step = 0 then some (n - s.image + s.lo)
  else none

def apply (table : List Shift) (c : Char) : Char :=
  match table.findSome? fun s => s.image? c.toNat with
  | some n => Char.ofNat n
  | none => c

def sources (table : List Shift) (c : Char) : List Char :=
  (table.filterMap fun s => s.source? c.toNat).map Char.ofNat

end Shift

end Selenese.Text
