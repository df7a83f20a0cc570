/-!
# Selenese.Text.Affix

Pieces of texts.

* `afterPrefix?` and `beforeSuffix?` take a fixed text off an end.
* `splitOn` cuts at a character, `occursIn` finds a text inside another, `replace` puts one in the place of
  another.
* `sameIgnoringCase` compares texts up to the case of ASCII letters.
-/

namespace Selenese.Text

/-- What follows `p` in a text that begins with it. -/
def afterPrefix? (p s : String) : Option String :=
  (p.toList.isPrefixOf? s.toList).map String.ofList

/-- What precedes `p` in a text that ends with it. -/
def beforeSuffix? (p s : String) : Option String :=
  (p.toList.reverse.isPrefixOf? s.toList.reverse).map fun r => String.ofList r.reverse

/-- The pieces of a text between the occurrences of a character; there is always one more piece than
there are occurrences. -/
def splitOn (sep : Char) : List Char → List (List Char)
  | [] => [[]]
  | c :: r =>
    match splitOn sep r with
    | [] => [[c]]
    | p :: ps => if c = sep then [] :: p :: ps else (c :: p) :: ps

def split (sep : Char) (s : String) : List String := (splitOn sep s.toList).map String.ofList

/-- Whether a text stands somewhere inside another. -/
def occursIn (needle : List Char) : List Char → Bool
  | [] => needle.isEmpty
  | c :: r => needle.isPrefixOf (c :: r) || occursIn needle r

/-- Leaves out `skip` characters, then replaces. -/
def replaceAfter (old new : List Char) : (skip : Nat) → List Char → List Char
  | _, [] => []
  | n + 1, _ :: r => replaceAfter old new n r
  | 0, c :: r =>
    if old.isPrefixOf (c :: r) then new ++ replaceAfter old new (old.length - 1) r
    else c :: replaceAfter old new 0 r

/-- Puts `new` in place of every `old`, a text that is not empty. The places are found from left to right and
do not overlap. -/
def replace (old new : List Char) (l : List Char) : List Char := replaceAfter old new 0 l

def contains (s needle : String) : Bool := occursIn needle.toList s.toList

def foldAscii (s : String) : List Char := s.toList.map Char.toLower

/-- Equality up to the case of ASCII letters. -/
def sameIgnoringCase (a b : String) : Bool := foldAscii a == foldAscii b

end Selenese.Text
