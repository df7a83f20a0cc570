import Selenese.Text.Decimal

/-!
# Selenese.Proofs.Text.Decimal

Decimal numbers that were written are read back.

* `readDigits_eq`: digits are read to their value, up to the limit.
* `readDecimal_toString`: a number is read back from its decimal form, up to the limit.
-/

namespace Selenese.Text

theorem digit?_of_isDigit {c : Char} (h : c.isDigit = true) :
    digit? c = some (c.toNat - '0'.toNat) := by
  rw [Char.isDigit, Bool.and_eq_true, decide_eq_true_eq, decide_eq_true_eq] at h
  have hc : '0' ≤ c ∧ c ≤ '9' := h
  rw [digit?, if_pos hc]

theorem le_ofDigitChars (n : Nat) (l : List Char) : n ≤ Nat.ofDigitChars 10 l n := by
  induction l generalizing n with
  | nil => exact Nat.le_refl n
  | cons c r ih =>
    rw [Nat.ofDigitChars_cons]
    exact Nat.le_trans (by omega) (ih _)

theorem readDigits_eq {limit n : Nat} {l : List Char} (hl : ∀ c ∈ l, c.isDigit = true)
    (hn : n ≤ limit) :
    readDigits limit n l =
      if Nat.ofDigitChars 10 l n ≤ limit then .ok (Nat.ofDigitChars 10 l n) else .error .tooLarge := by
  induction l generalizing n with
  | nil => exact (if_pos hn).symm
  | cons c r ih =>
    obtain ⟨hc, hr⟩ := List.forall_mem_cons.1 hl
    rw [readDigits, digit?_of_isDigit hc, Nat.ofDigitChars_cons]
    dsimp only
    split
    · rename_i hle
      exact ih hr hle
    · -- past the limit the value never comes back
      rename_i hgt
      have := le_ofDigitChars (10 * n + (c.toNat - '0'.toNat)) r
      rw [if_neg (by omega)]

theorem readDecimal_of_digits {limit : Nat} {l : List Char} (hne : l ≠ [])
    (hl : ∀ c ∈ l, c.isDigit = true) : readDecimal limit l = readDigits limit 0 l := by
  cases l with
  | nil => exact absurd rfl hne
  | cons c r =>
    have hc : c ≠ '+' := by
      rintro rfl
      exact absurd (hl _ List.mem_cons_self) (by decide)
    rw [readDecimal]
    · intro h; cases h
    · intro h; cases h; exact hc rfl
    · intro r' h; cases h; exact hc rfl

/-- A number is written in digits, whose value it is. -/
theorem digits_toString (n : Nat) :
    (toString n).toList ≠ [] ∧ (∀ c ∈ (toString n).toList, c.isDigit = true) ∧
      Nat.ofDigitChars 10 (toString n).toList 0 = n := by
  have hdigits : (toString n).toList = Nat.toDigits 10 n := Nat.toList_repr
  rw [hdigits]
  exact ⟨Nat.toDigits_ne_nil,
    fun c hc => Nat.isDigit_of_mem_toDigits (by decide) (by decide) hc,
    Nat.ofDigitChars_ten_toDigits⟩

theorem readDecimal_toString (limit n : Nat) :
    readDecimal limit (toString n).toList = if n ≤ limit then .ok n else .error .tooLarge := by
  obtain ⟨hne, hall, hvalue⟩ := digits_toString n
  rw [readDecimal_of_digits hne hall, readDigits_eq hall (Nat.zero_le limit), hvalue]

end Selenese.Text
