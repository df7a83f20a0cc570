import Selenese.CharRef.Named
import Selenese.Text.Decimal
import Selenese.Text.Span

/-!
# Selenese.CharRef.Decode

Character references in the cells of a script.

* `decode` replaces every complete reference, `&name;`, `&#123;` or `&#x7b;`, by its character and leaves
  all else as it is. A name that stands for two characters gives the first of them.
* Numbers beyond the last code point, surrogates and controls other than tab and line ends stay as written.
-/

namespace Selenese.CharRef

/-- The character that a number refers to. -/
def numbered? (n : Nat) : Option Char :=
  if (n < 0x20 ∧ n ≠ 0x9 ∧ n ≠ 0xa ∧ n ≠ 0xd) ∨ ¬ n.isValidChar then none else some (Char.ofNat n)

def digitsValue (base : Nat) (digits : List Nat) : Nat :=
  digits.foldl (fun n d => base * n + d) 0

/-- The number written by the digits before the first semicolon. -/
def number? (base : Nat) (digit? : Char → Option Nat) (text : List Char) : Option Nat :=
  match (text.takeWhile (· ≠ ';')).mapM digit? with
  | some (d :: ds) => some (digitsValue base (d :: ds))
  | _ => none

/-- The character meant by what stands between `&` and the next semicolon. -/
def meaning? : List Char → Option Char
  | '#' :: 'x' :: r => (number? 16 Text.Span.hexDigit? r).bind numbered?
  | '#' :: 'X' :: r => (number? 16 Text.Span.hexDigit? r).bind numbered?
  | '#' :: r => (number? 10 Text.digit? r).bind numbered?
  | name => (named? name).bind List.head?

/-- Reads what follows `&` as a reference: its character, and the number of characters it takes with its
semicolon. -/
def reference? (text : List Char) : Option (Char × Nat) :=
  let body := text.takeWhile (· ≠ ';')
  if body.length < text.length then (meaning? body).map (·, body.length + 1) else none

def decodeChars : List Char → List Char
  | [] => []
  | c :: r =>
    if c = '&' then
      match reference? r with
      | some (d, n) => d :: decodeChars (r.drop n)
      | none => '&' :: decodeChars r
    else c :: decodeChars r
termination_by l => l.length
decreasing_by all_goals (simp only [List.length_drop, List.length_cons]; omega)

def decode (s : String) : String := String.ofList (decodeChars s.toList)

end Selenese.CharRef
