import Selenese.Text.Decimal
import Selenese.Text.Span

/-!
# Selenese.Yaml.Number

Unsigned whole numbers in a YAML document.
-/

namespace Selenese.Yaml

/-- A number of at least one digit, up to a limit. -/
def digits? (base : Nat) (digit? : Char → Option Nat) (limit : Nat) (l : List Char) : Option Nat := do
  let ds ← l.mapM digit?
  let n := ds.foldl (fun n d => base * n + d) 0
  if ds = [] ∨ limit < n then none else some n

def octal? (c : Char) : Option Nat := (Text.digit? c).filter (· < 8)

def binary? (c : Char) : Option Nat := (Text.digit? c).filter (· < 2)

/-- A number after an optional plus sign: hexadecimal, octal or binary after its prefix, or decimal without leading
zeros. -/
def unsigned? (limit : Nat) (text : String) : Option Nat :=
  let l :=
    match text.toList with
    | '+' :: r => r
    | l => l
  match l with
  | '0' :: 'x' :: r => digits? 16 Text.Span.hexDigit? limit r
  | '0' :: 'o' :: r => digits? 8 octal? limit r
  | '0' :: 'b' :: r => digits? 2 binary? limit r
  | '0' :: _ :: _ => none
  | l => digits? 10 Text.digit? limit l

end Selenese.Yaml
