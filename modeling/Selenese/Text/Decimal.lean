/-!
# Selenese.Text.Decimal

Reading unsigned decimal numbers with an upper limit. The first character that is no digit, or at which
the number passes the limit, decides the error.
-/

namespace Selenese.Text

inductive DecimalError where
  | empty
  | invalidDigit
  | tooLarge
deriving DecidableEq, Repr

def DecimalError.message : DecimalError → String
  | .empty => "cannot parse integer from empty string"
  | .invalidDigit => "invalid digit found in string"
  | .tooLarge => "number too large to fit in target type"

/-- The value of a digit below ten. -/
def digit? (c : Char) : Option Nat :=
  if '0' ≤ c ∧ c ≤ '9' then some (c.toNat - '0'.toNat) else none

/-- Extends the number read so far by the digits of a text. -/
def readDigits (limit : Nat) (n : Nat) : List Char → Except DecimalError Nat
  | [] => .ok n
  | c :: r =>
    match digit? c with
    | none => .error .invalidDigit
    | some d => if 10 * n + d ≤ limit then readDigits limit (10 * n + d) r else .error .tooLarge

/-- A number of at least one digit after an optional plus sign. -/
def readDecimal (limit : Nat) : List Char → Except DecimalError Nat
  | [] => .error .empty
  | ['+'] => .error .invalidDigit
  | '+' :: r => readDigits limit 0 r
  | r => readDigits limit 0 r

/-- The largest index of a list of options, and the largest count of milliseconds. -/
def maxWord : Nat := 0xffffffffffffffff

/-- The largest counter. -/
def maxCount : Nat := 0xffffffff

end Selenese.Text
