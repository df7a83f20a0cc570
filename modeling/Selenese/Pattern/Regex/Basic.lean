import Selenese.Pattern.Regex.CharSet

/-!
# Selenese.Pattern.Regex.Basic

Regular expressions and what they match.

* `Regex` is the expression, `Matches` says between which positions of a text it matches.
* `reach` carries a set of positions over an expression: where a match can end that began in the set.
* `search` asks whether an expression matches some part of a text.
-/

namespace Selenese

namespace Regex

/-- Conditions on a position that take up no character. `ascii` restricts the letters of words. -/
inductive Look where
  | start
  | finish
  /-- At the start of a line; `crlf` counts a carriage return with a line feed as one line end. -/
  | startLine (crlf : Bool)
  | finishLine (crlf : Bool)
  | wordBoundary (ascii : Bool)
  | notWordBoundary (ascii : Bool)
  | wordStart (ascii : Bool)
  | wordEnd (ascii : Bool)
  /-- No character of a word precedes. -/
  | wordStartHalf (ascii : Bool)
  /-- No character of a word follows. -/
  | wordEndHalf (ascii : Bool)
deriving DecidableEq, Repr

def isWordChar (ascii : Bool) : Option Char → Bool
  | none => false
  | some c => if ascii then CharSet.asciiWord.mem c else CharSet.word.mem c

/-- Whether a condition holds between two characters; an end of the text is no character. -/
def Look.holds (before after : Option Char) : Look → Bool
  | .start => before.isNone
  | .finish => after.isNone
  | .startLine false => before.isNone || before == some '\n'
  | .startLine true => before.isNone || before == some '\n' || (before == some '\r' && after != some '\n')
  | .finishLine false => after.isNone || after == some '\n'
  | .finishLine true => after.isNone || after == some '\r' || (after == some '\n' && before != some '\r')
  | .wordBoundary a => isWordChar a before != isWordChar a after
  | .notWordBoundary a => isWordChar a before == isWordChar a after
  | .wordStart a => !isWordChar a before && isWordChar a after
  | .wordEnd a => isWordChar a before && !isWordChar a after
  | .wordStartHalf a => !isWordChar a before
  | .wordEndHalf a => !isWordChar a after

end Regex

inductive Regex where
  | empty
  | set (s : Regex.CharSet)
  | look (l : Regex.Look)
  | seq (r s : Regex)
  | alt (r s : Regex)
  /-- A group, with its number if the text it takes up is kept. -/
  | group (number : Option Nat) (r : Regex)
  /-- At least `min` and at most `max` times; without `max` as often as one likes. A `lazy` repetition
  prefers fewer times to more, any other more to fewer. -/
  | «repeat» (r : Regex) (min : Nat) (max : Option Nat) (lazy : Bool)

namespace Regex

def char (c : Char) : Regex := set (.single c)

/-! ## Sets of positions -/

/-- The positions of two ascending lists in one. -/
def merge : List Nat → List Nat → List Nat
  | [], l => l
  | l, [] => l
  | a :: l, b :: m =>
    if a < b then a :: merge l (b :: m)
    else if b < a then b :: merge (a :: l) m
    else a :: merge l m
termination_by l m => l.length + m.length

/-- The positions of one ascending list that are not in another. -/
def without : List Nat → List Nat → List Nat
  | [], _ => []
  | l, [] => l
  | a :: l, b :: m =>
    if a < b then a :: without l (b :: m)
    else if b < a then without (a :: l) m
    else without l m
termination_by l m => l.length + m.length

/-- Takes up to `rounds` steps from the positions in `front`, which are those found last; `seen` holds all
that were found. It stops when a step finds nothing new. -/
def spread (step : List Nat → List Nat) : (rounds : Nat) → (front seen : List Nat) → List Nat
  | 0, _, seen => seen
  | n + 1, front, seen =>
    match without (step front) seen with
    | [] => seen
    | new => spread step n new (merge seen new)

def iterate (step : List Nat → List Nat) : Nat → List Nat → List Nat
  | 0, s => s
  | n + 1, s => if s.isEmpty then s else iterate step n (step s)

/-- The positions at which a match can end that begins at one of `s`. -/
def reach (text : Array Char) : Regex → List Nat → List Nat
  | empty, s => s
  | set c, s => (s.filter fun i => text[i]?.any c.mem).map (· + 1)
  | look l, s => s.filter fun i => l.holds (if i = 0 then none else text[i - 1]?) text[i]?
  | seq r t, s => reach text t (reach text r s)
  | alt r t, s => merge (reach text r s) (reach text t s)
  | group _ r, s => reach text r s
  | «repeat» r min max _, s =>
    let first := iterate (reach text r) min s
    let rounds := match max with
      | some m => m - min
      | none => text.size + 1
    spread (reach text r) rounds first first

/-- Whether the expression matches a part of a text. -/
def search (r : Regex) (text : String) : Bool :=
  let chars := text.toList.toArray
  !(reach chars r (List.range (chars.size + 1))).isEmpty

/-- Which positions of a text a match can begin and end at. -/
inductive Matches (text : Array Char) : Regex → Nat → Nat → Prop where
  | empty {i : Nat} : Matches text empty i i
  | set {s : CharSet} {i : Nat} {c : Char} :
      text[i]? = some c → s.mem c = true → Matches text (set s) i (i + 1)
  | look {l : Look} {i : Nat} :
      l.holds (if i = 0 then none else text[i - 1]?) text[i]? = true → Matches text (look l) i i
  | seq {r t : Regex} {i j k : Nat} :
      Matches text r i j → Matches text t j k → Matches text (seq r t) i k
  | altLeft {r t : Regex} {i j : Nat} : Matches text r i j → Matches text (alt r t) i j
  | altRight {r t : Regex} {i j : Nat} : Matches text t i j → Matches text (alt r t) i j
  | group {n : Option Nat} {r : Regex} {i j : Nat} : Matches text r i j → Matches text (group n r) i j
  | stop {r : Regex} {max : Option Nat} {lazy : Bool} {i : Nat} : Matches text («repeat» r 0 max lazy) i i
  | step {r : Regex} {min : Nat} {max : Option Nat} {lazy : Bool} {i j k : Nat} :
      max ≠ some 0 → Matches text r i j →
      Matches text («repeat» r (min - 1) (max.map (· - 1)) lazy) j k →
      Matches text («repeat» r min max lazy) i k

/-! ## Limits -/

/-- How deeply an expression is nested. The parts of a sequence, and the branches of an alternation, are
on one level. -/
def depth : (inSeq inAlt : Bool) → Regex → Nat
  | inSeq, _, seq r t => max (depth true false r) (depth true false t) + (if inSeq then 0 else 1)
  | _, inAlt, alt r t => max (depth false true r) (depth false true t) + (if inAlt then 0 else 1)
  | _, _, group _ r => depth false false r + 1
  | _, _, «repeat» r _ _ _ => depth false false r + 1
  | _, _, set s => s.depth false
  | _, _, _ => 0

/-- An estimate, in bytes, of what an expression costs once compiled. The true size depends on how it is
compiled, which is not followed here. -/
def weight : Regex → Nat
  | empty | look _ => 32
  | set s => s.weight
  | seq r t => r.weight + t.weight
  | alt r t => r.weight + t.weight + 32
  | group _ r => r.weight + 64
  | «repeat» r min none _ => r.weight * (if min = 0 then 1 else min) + 32
  | «repeat» r _ (some max) _ => (r.weight + 32) * max

end Regex

end Selenese
