import Selenese.Pattern.Regex.Basic

/-!
# Selenese.Pattern.Regex.Find

Where the matches of an expression stand in a text, and what their groups took up.

* `firstWay` tries the ways in which an expression can match, in the order of preference, until what
  follows can go on from one: a branch that stands further left comes first, and a repetition prefers more
  times or fewer.
* `find` answers the match that begins leftmost, in the most preferred way.
* `replaceAll` writes a text anew for every match; the matches do not overlap.
-/

namespace Selenese.Regex

/-- Where a match has got to, and where the groups that it has closed begin and end, latest first. -/
structure Place where
  position : Nat
  groups : List (Nat × Nat × Nat)

/-- Takes a step `n` times. -/
def exactly {α : Type} (step : (Place → Option α) → Place → Option α) :
    Nat → (Place → Option α) → Place → Option α
  | 0, next => next
  | n + 1, next => step (exactly step n next)

/-- Takes a step up to `n` times. A step that takes up nothing is not worth taking. -/
def upTo {α : Type} (step : (Place → Option α) → Place → Option α) (lazy : Bool) :
    Nat → (Place → Option α) → Place → Option α
  | 0, next, p => next p
  | n + 1, next, p =>
    let more := fun () =>
      step (fun q => if p.position < q.position then upTo step lazy n next q else none) p
    if lazy then (next p).orElse more else (more ()).orElse fun () => next p

/-- The first way to match an expression from a place on from which `next` succeeds. -/
def firstWay {α : Type} (text : Array Char) : Regex → (Place → Option α) → Place → Option α
  | empty, next, p => next p
  | set c, next, p => if text[p.position]?.any c.mem then next { p with position := p.position + 1 } else none
  | look l, next, p =>
    if l.holds (if p.position = 0 then none else text[p.position - 1]?) text[p.position]? then next p else none
  | seq r t, next, p => firstWay text r (firstWay text t next) p
  | alt r t, next, p => (firstWay text r next p).orElse fun () => firstWay text t next p
  | group none r, next, p => firstWay text r next p
  | group (some n) r, next, p =>
    firstWay text r (fun q => next { q with groups := (n, p.position, q.position) :: q.groups }) p
  | «repeat» r min max lazy, next, p =>
    let rounds := match max with
      | some m => m - min
      | none => text.size
    exactly (firstWay text r) min (upTo (firstWay text r) lazy rounds next) p

/-- Where a match begins and ends, and its groups. -/
structure Match where
  start : Nat
  stop : Nat
  groups : List (Nat × Nat × Nat)
deriving DecidableEq, Repr

/-- The characters between two positions. -/
def slice (text : Array Char) (i j : Nat) : List Char := (text.extract i j).toList

/-- What a group took up, if it took part in the match. -/
def Match.group? (m : Match) (text : Array Char) (n : Nat) : Option (List Char) :=
  (m.groups.lookup n).map fun (i, j) => slice text i j

def matchAt (r : Regex) (text : Array Char) (i : Nat) : Option Match :=
  (firstWay text r some ⟨i, []⟩).map fun p => ⟨i, p.position, p.groups⟩

/-- The match that begins leftmost among `left` positions from `i` on. -/
def findAmong (r : Regex) (text : Array Char) : (left : Nat) → (i : Nat) → Option Match
  | 0, _ => none
  | n + 1, i => (matchAt r text i).orElse fun () => findAmong r text n (i + 1)

def find (r : Regex) (text : Array Char) (i : Nat) : Option Match := findAmong r text (text.size + 1 - i) i

/-- The matches from `i` on, each behind the one before. A match of nothing does not count where the match
before it ended. -/
def matchesFrom (r : Regex) (text : Array Char) : (fuel : Nat) → (i : Nat) → (ended : Option Nat) → List Match
  | 0, _, _ => []
  | n + 1, i, ended =>
    match find r text i with
    | none => []
    | some m =>
      if m.stop = m.start ∧ ended = some m.stop then matchesFrom r text n (i + 1) ended
      else m :: matchesFrom r text n m.stop (some m.stop)

/-- All matches. Every second step at least takes the search a character further. -/
def allMatches (r : Regex) (text : Array Char) : List Match := matchesFrom r text (2 * text.size + 3) 0 none

/-- Copies a text from `i` on, with something else in place of every match. -/
def replaceMatches (text : Array Char) (new : Match → List Char) : (i : Nat) → List Match → List Char
  | i, [] => slice text i text.size
  | i, m :: ms => slice text i m.start ++ new m ++ replaceMatches text new m.stop ms

/-- Puts something else in place of every match, which is told what the groups took up. -/
def replaceAll (r : Regex) (s : String) (new : (Nat → Option (List Char)) → List Char) : String :=
  let text := s.toList.toArray
  String.ofList (replaceMatches text (fun m => new (m.group? text)) 0 (allMatches r text))

end Selenese.Regex
