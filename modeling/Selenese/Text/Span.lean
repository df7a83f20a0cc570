/-!
# Selenese.Text.Span

Sets of code points as lists of spans.

* `Span` is a range of code points, or every second one of a range.
* `Span.ofHex` reads a list of spans from its written form.
-/

namespace Selenese.Text

/-- The code points `lo`, `lo + step`, … up to `hi`. -/
structure Span where
  lo : Nat
  hi : Nat
  step : Nat

namespace Span

def mem (s : Span) (n : Nat) : Bool :=
  s.lo ≤ n && n ≤ s.hi && (n - s.lo) % s.step == 0

def any (l : List Span) (n : Nat) : Bool := l.any fun s => s.mem n

/-- The value of a hexadecimal digit. -/
def hexDigit? (c : Char) : Option Nat :=
  if '0' ≤ c ∧ c ≤ '9' then some (c.toNat - '0'.toNat)
  else if 'a' ≤ c ∧ c ≤ 'f' then some (c.toNat - 'a'.toNat + 10)
  else if 'A' ≤ c ∧ c ≤ 'F' then some (c.toNat - 'A'.toNat + 10)
  else none

/-- A list of spans being read: those read so far, latest first, the lower end and step of one that
is open, and the number being read. -/
structure Reading where
  spans : List Span
  opened : Option (Nat × Nat)
  number : Option Nat

/-- Ends the number being read: it closes the open span, or stands alone. -/
def Reading.close (r : Reading) : Reading :=
  match r.number, r.opened with
  | none, _ => r
  | some n, some (lo, step) => ⟨⟨lo, n, step⟩ :: r.spans, none, none⟩
  | some n, none => ⟨⟨n, n, 1⟩ :: r.spans, none, none⟩

/-- Reads one character: a digit extends the number, `-` opens a range, `+` opens a range of every
second code point, and any other character ends a span. -/
def Reading.next (r : Reading) (c : Char) : Reading :=
  match hexDigit? c, r.number with
  | some d, n => { r with number := some (16 * n.getD 0 + d) }
  | none, none => r
  | none, some n =>
    if c == '-' then { r with opened := some (n, 1), number := none }
    else if c == '+' then { r with opened := some (n, 2), number := none }
    else r.close

/-- The spans written as `lo`, `lo-hi` or `lo+hi` in hexadecimal, separated by blanks. -/
def ofHex (s : String) : List Span :=
  (s.toList.foldl Reading.next ⟨[], none, none⟩).close.spans.reverse

end Span

end Selenese.Text
