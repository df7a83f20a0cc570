import Selenese.CharRef.Decode

/-!
# Selenese.Html.CharRef

Character references in pages.

* A reference may lack its semicolon: a number always, a name if it is one of `CharRef.bareNames`.
* In an attribute value a name without its semicolon is no reference before an equals sign, a letter or a digit.
* Numbers that are no characters become U+FFFD, and those of the C1 controls mean the characters of the
  Windows code page.
-/

namespace Selenese.Html

def replacement : Char := '\ufffd'

/-- The characters that the code page has from 0x80 to 0x9f; 0 where it has none. -/
def codePage : List Nat := [
  0x20ac, 0, 0x201a, 0x192, 0x201e, 0x2026, 0x2020, 0x2021, 0x2c6, 0x2030, 0x160, 0x2039, 0x152, 0, 0x17d, 0,
  0, 0x2018, 0x2019, 0x201c, 0x201d, 0x2022, 0x2013, 0x2014, 0x2dc, 0x2122, 0x161, 0x203a, 0x153, 0, 0x17e, 0x178]

def numberedChar (n : Nat) : Char :=
  match codePage[n - 0x80]? with
  | some m => if 0x80 ≤ n ∧ m ≠ 0 then Char.ofNat m else checked n
  | none => checked n
where
  checked (n : Nat) : Char := if n = 0 ∨ ¬ n.isValidChar then replacement else Char.ofNat n

/-- A number of at least one digit and its semicolon, if that was written. -/
def number? (base : Nat) (digit? : Char → Option Nat) (text : List Char) : Option (Char × List Char) :=
  match text.takeWhile fun c => (digit? c).isSome with
  | [] => none
  | digits =>
    let rest := text.drop digits.length
    some (numberedChar (CharRef.digitsValue base (digits.filterMap digit?)),
      if rest.head? = some ';' then rest.drop 1 else rest)

/-- The reference that stands after `&`: its characters, and what follows it. -/
def reference? (inAttribute : Bool) : List Char → Option (List Char × List Char)
  | '#' :: 'x' :: r | '#' :: 'X' :: r => (number? 16 Text.Span.hexDigit? r).map fun (c, r) => ([c], r)
  | '#' :: r => (number? 10 Text.digit? r).map fun (c, r) => ([c], r)
  | text =>
    match CharRef.longest? text with
    | none => none
    | some f =>
      let goesOn := f.rest.head?.any fun c => c == '=' || c.isAlphanum
      if inAttribute && !f.closed && goesOn then none else some (f.chars, f.rest)

/-- The value of an attribute with its references replaced. -/
def decodeValue : (fuel : Nat) → List Char → List Char
  | 0, l => l
  | _, [] => []
  | fuel + 1, '&' :: r =>
    match reference? true r with
    | some (chars, rest) => chars ++ decodeValue fuel rest
    | none => '&' :: decodeValue fuel r
  | fuel + 1, c :: r => (if c = '\x00' then replacement else c) :: decodeValue fuel r

end Selenese.Html
