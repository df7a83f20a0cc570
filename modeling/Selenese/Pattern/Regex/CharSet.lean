import Selenese.Text.Blank
import Selenese.Text.CaseFold
import Selenese.Text.Property
import Selenese.Text.Writing

/-!
# Selenese.Pattern.Regex.CharSet

Sets of characters as patterns write them: ranges, named classes, set operations and closure under case.

* `CharSet.mem` decides membership.
* `CharSet.property?` looks up a class by a name of Unicode, up to case, blanks, hyphens and underscores.
* `CharSet.posix?` looks up a class by a name of POSIX.
-/

namespace Selenese.Regex

open Text

inductive CharSet where
  | all
  | range (lo hi : Char)
  | spans (spans : List Span)
  | negate (s : CharSet)
  | union (s t : CharSet)
  | inter (s t : CharSet)
  | diff (s t : CharSet)
  | exclusive (s t : CharSet)
  /-- The characters that differ from a member only in case; of ASCII letters alone, or of any. -/
  | fold (ascii : Bool) (s : CharSet)
  /-- A class in brackets. -/
  | bracket (s : CharSet)

namespace CharSet

def single (c : Char) : CharSet := range c c

def empty : CharSet := negate all

def mem : CharSet → Char → Bool
  | all, _ => true
  | range lo hi, c => lo ≤ c && c ≤ hi
  | spans l, c => Span.any l c.toNat
  | negate s, c => !s.mem c
  | union s t, c => s.mem c || t.mem c
  | inter s t, c => s.mem c && t.mem c
  | diff s t, c => s.mem c && !t.mem c
  | exclusive s t, c => s.mem c != t.mem c
  | fold true s, c => s.mem c || s.mem c.toLower || s.mem c.toUpper
  | fold false s, c => s.mem c || (caseOrbit c).any s.mem
  | bracket s, c => s.mem c

/-- No member lies beyond ASCII, as far as single bytes can tell. -/
def isAscii (s : CharSet) : Bool :=
  (List.range 128).all fun i => !s.mem (Char.ofNat (128 + i))

/-- How deeply brackets, lists of items and set operations are nested. -/
def depth : (inList : Bool) → CharSet → Nat
  | _, bracket s => depth false s + 1
  | inList, union s t => max (depth true s) (depth true t) + (if inList then 0 else 1)
  | _, inter s t | _, diff s t | _, exclusive s t => max (depth false s) (depth false t) + 1
  | inList, negate s | inList, fold _ s => depth inList s
  | _, _ => 0

/-- An estimate, in bytes, of what a class costs once compiled. -/
def weight : CharSet → Nat
  | all => 400
  | range lo hi => if lo = hi then 32 * lo.utf8Size else 64
  | spans l => 64 + 60 * l.length
  | negate s => s.weight + 400
  | union s t | inter s t | diff s t | exclusive s t => s.weight + t.weight
  | fold _ s | bracket s => s.weight

/-! ## Named classes -/

def digit : CharSet := spans Category.decimalNumber

def blank : CharSet := spans (Span.ofHex "9-d 20 85 a0 1680 2000-200a 2028 2029 202f 205f 3000")

def word : CharSet := spans Property.word

def asciiDigit : CharSet := range '0' '9'

def asciiLetter : CharSet := union (range 'a' 'z') (range 'A' 'Z')

def asciiWord : CharSet := union (union asciiDigit asciiLetter) (single '_')

def asciiBlank : CharSet := spans (Span.ofHex "9-d 20")

def posix? (name : String) : Option CharSet :=
  match name with
  | "alnum" => some (union asciiDigit asciiLetter)
  | "alpha" => some asciiLetter
  | "ascii" => some (range '\x00' '\x7f')
  | "blank" => some (union (single '\t') (single ' '))
  | "cntrl" => some (union (range '\x00' '\x1f') (single '\x7f'))
  | "digit" => some asciiDigit
  | "graph" => some (range '!' '~')
  | "lower" => some (range 'a' 'z')
  | "print" => some (range ' ' '~')
  | "punct" => some (spans (Span.ofHex "21-2f 3a-40 5b-60 7b-7e"))
  | "space" => some asciiBlank
  | "upper" => some (range 'A' 'Z')
  | "word" => some asciiWord
  | "xdigit" => some (union asciiDigit (union (range 'a' 'f') (range 'A' 'F')))
  | _ => none

/-- The loose form of a property name: ASCII letters small, blanks, hyphens and underscores gone, and a
leading `is` too, except that `isc` stays as it is. -/
def looseName (name : String) : String :=
  let drop (l : List Char) : List Char :=
    (l.filter fun c => c.toNat < 128 && c != ' ' && c != '_' && c != '-').map Char.toLower
  match name.toList with
  | a :: b :: r =>
    if a.toLower = 'i' ∧ b.toLower = 's' then
      let rest := drop r
      String.ofList (if rest = ['c'] then ['i', 's', 'c'] else rest)
    else String.ofList (drop (a :: b :: r))
  | l => String.ofList (drop l)

/-- Classes that are given by their own names. -/
def binary? (key : String) : Option CharSet :=
  open Property in
  match key with
  | "alphabetic" | "alpha" => some (spans alphabetic)
  | "lowercase" | "lower" => some (spans lowercase)
  | "uppercase" | "upper" => some (spans uppercase)
  | "whitespace" | "wspace" | "space" => some blank
  | "cased" => some (spans cased)
  | "caseignorable" | "ci" => some (spans caseIgnorable)
  | "graphemeextend" | "grext" => some (spans graphemeExtend)
  | "joincontrol" | "joinc" => some (spans joinControl)
  | "emoji" => some (spans emoji)
  | "dash" => some (spans dash)
  | "hexdigit" | "hex" => some (spans hexDigit)
  | "asciihexdigit" | "ahex" => some (spans asciiHexDigit)
  | "ideographic" | "ideo" => some (spans ideographic)
  | "math" => some (spans math)
  | "diacritic" | "dia" => some (spans diacritic)
  | "quotationmark" | "qmark" => some (spans quotationMark)
  | _ => none

/-- General categories by their long and short names. -/
def category? (key : String) : Option CharSet :=
  open Category in
  match key with
  | "any" => some all
  | "assigned" => some (spans assigned)
  | "ascii" => some (range '\x00' '\x7f')
  | "letter" | "l" => some (spans letter)
  | "casedletter" | "lc" => some (spans casedLetter)
  | "uppercaseletter" | "lu" => some (spans uppercaseLetter)
  | "lowercaseletter" | "ll" => some (spans lowercaseLetter)
  | "titlecaseletter" | "lt" => some (spans titlecaseLetter)
  | "modifierletter" | "lm" => some (spans modifierLetter)
  | "otherletter" | "lo" => some (spans otherLetter)
  | "mark" | "m" | "combiningmark" => some (spans mark)
  | "nonspacingmark" | "mn" => some (spans nonspacingMark)
  | "spacingmark" | "mc" => some (spans spacingMark)
  | "enclosingmark" | "me" => some (spans enclosingMark)
  | "number" | "n" => some (spans number)
  | "decimalnumber" | "nd" | "digit" => some (spans decimalNumber)
  | "letternumber" | "nl" => some (spans letterNumber)
  | "othernumber" | "no" => some (spans otherNumber)
  | "punctuation" | "p" | "punct" => some (spans punctuation)
  | "connectorpunctuation" | "pc" => some (spans connectorPunctuation)
  | "dashpunctuation" | "pd" => some (spans dashPunctuation)
  | "openpunctuation" | "ps" => some (spans openPunctuation)
  | "closepunctuation" | "pe" => some (spans closePunctuation)
  | "initialpunctuation" | "pi" => some (spans initialPunctuation)
  | "finalpunctuation" | "pf" => some (spans finalPunctuation)
  | "otherpunctuation" | "po" => some (spans otherPunctuation)
  | "symbol" | "s" => some (spans symbol)
  | "mathsymbol" | "sm" => some (spans mathSymbol)
  | "currencysymbol" | "sc" => some (spans currencySymbol)
  | "modifiersymbol" | "sk" => some (spans modifierSymbol)
  | "othersymbol" | "so" => some (spans otherSymbol)
  | "separator" | "z" => some (spans separator)
  | "spaceseparator" | "zs" => some (spans spaceSeparator)
  | "lineseparator" | "zl" => some (spans lineSeparator)
  | "paragraphseparator" | "zp" => some (spans paragraphSeparator)
  | "other" | "c" => some (union (negate (spans assigned)) (spans (control ++ format ++ surrogate ++ privateUse)))
  | "control" | "cc" | "cntrl" => some (spans control)
  | "format" | "cf" => some (spans format)
  | "surrogate" | "cs" => some (spans surrogate)
  | "privateuse" | "co" => some (spans privateUse)
  | "unassigned" | "cn" => some (negate (spans assigned))
  | _ => none

/-- Scripts; a character that is not assigned belongs to the script of the unknown. -/
def script? (key : String) : Option CharSet := (Writing.script? key).map spans

/-- A class given by one name: a property of its own, a general category or a script. -/
def property? (name : String) : Option CharSet :=
  let key := looseName name
  (binary? key).or ((category? key).or (script? key))

/-- A class given as the value of a property. -/
def propertyValue? (name value : String) : Option CharSet :=
  let value := looseName value
  match looseName name with
  | "generalcategory" | "gc" => category? value
  | "script" | "sc" => script? value
  | _ => none

end CharSet

end Selenese.Regex
