/-!
# Selenese.Poll

Waiting: a probe is repeated until it answers yes or a number of attempts is used up.

* `Poll.run` answers the number of the successful attempt. A probe that fails counts as one that answers no.
* `Poll.ceiling` bounds the time that a wait can take.
-/

namespace Selenese

/-- A wait that used up its attempts. -/
structure Timeout where
  attempts : Nat
deriving DecidableEq, Repr

def Timeout.message (t : Timeout) : String := s!"timeout after {t.attempts} attempts"

/-- How often, and how many milliseconds apart, a wait probes. -/
structure Poll where
  interval : Nat
  attempts : Nat
deriving DecidableEq, Repr

namespace Poll

def standard : Poll := ⟨1000, 60⟩

/-- The longest span of time, in whole milliseconds: 2⁶⁴ seconds less a nanosecond. -/
def longestSpan : Nat := 0xffffffffffffffff * 1000 + 999

def ceiling (p : Poll) : Nat := min (p.interval * p.attempts) longestSpan

/-- Makes the last `left` of `limit` attempts. -/
def attempt {σ ε : Type} (limit : Nat) (probe : EStateM ε σ Bool) : (left : Nat) → EStateM Timeout σ Nat
  | 0, s => .error ⟨limit⟩ s
  | left + 1, s =>
    match probe s with
    | .ok true s' => .ok (limit - left) s'
    | .ok false s' => attempt limit probe left s'
    | .error _ s' => attempt limit probe left s'

def run {σ ε : Type} (limit : Nat) (probe : EStateM ε σ Bool) : EStateM Timeout σ Nat :=
  attempt limit probe limit

end Poll

end Selenese
