import Selenese.Text.Lowercase

/-!
# Selenese.Proofs.Text.Lowercase

The lower case of texts that begin with ASCII characters.

* `lowerAfter_ascii`: ASCII characters are lowered one by one, and what follows them is lowered on
  its own.
* `lowerAfter_before`: what stands before a text matters for a capital sigma only, and leaves a
  trace where it matters: a lower case in ASCII does not depend on it.
-/

namespace Selenese.Text

def IsAscii (c : Char) : Prop := c.toNat < 128

instance (c : Char) : Decidable (IsAscii c) := inferInstanceAs (Decidable (_ < _))

theorem isAscii_of_all {l : List Char} (h : l.all (fun c => decide (IsAscii c)) = true) :
    ∀ c ∈ l, IsAscii c :=
  fun c hc => of_decide_eq_true (List.all_eq_true.1 h c hc)

theorem toNat_toLower (c : Char) :
    c.toLower.toNat = if 65 ≤ c.toNat ∧ c.toNat ≤ 90 then c.toNat + 32 else c.toNat := by
  have hcond : (c.val ≥ 'A'.val ∧ c.val ≤ 'Z'.val) ↔ (65 ≤ c.toNat ∧ c.toNat ≤ 90) := by
    simp only [ge_iff_le, UInt32.le_iff_toNat_le]; rfl
  unfold Char.toLower
  split
  · rename_i h
    have h' := hcond.1 h
    rw [if_pos h']
    have hval : c.val.toNat = c.toNat := rfl
    show (c.val + 32).toNat = c.toNat + 32
    simp only [UInt32.toNat_add, hval, UInt32.reduceToNat]
    omega
  · rename_i h
    rw [if_neg (mt hcond.2 h)]

theorem toLower_ascii_iff {c : Char} : IsAscii c.toLower ↔ IsAscii c := by
  unfold IsAscii
  rw [toNat_toLower]
  split <;> omega

theorem apply_lowerShifts {c : Char} (h : IsAscii c) : Shift.apply lowerShifts c = c.toLower := by
  have hrest : ∀ s ∈ lowerShifts.tail, ¬ s.lo ≤ c.toNat := by
    have hlo : ∀ s ∈ lowerShifts.tail, 128 ≤ s.lo := by decide +kernel
    intro s hs hle
    exact absurd (Nat.lt_of_lt_of_le h (hlo s hs)) (Nat.not_lt.2 hle)
  have hnone : (lowerShifts.tail.findSome? fun s => s.image? c.toNat) = none := by
    rw [List.findSome?_eq_none_iff]
    intro s hs
    simp [Shift.image?, hrest s hs]
  have hcons : lowerShifts = ⟨0x41, 0x5a, 1, 0x61⟩ :: lowerShifts.tail := rfl
  rw [← Char.ofNat_toNat c.toLower, toNat_toLower, Shift.apply, hcons, List.findSome?_cons, hnone]
  by_cases hc : 65 ≤ c.toNat ∧ c.toNat ≤ 90
  · have himage : (⟨0x41, 0x5a, 1, 0x61⟩ : Shift).image? c.toNat = some (c.toNat - 65 + 97) := by
      simp [Shift.image?, hc, Nat.mod_one]
    have hadd : c.toNat - 65 + 97 = c.toNat + 32 := by omega
    rw [himage, if_pos hc, hadd]
  · have himage : (⟨0x41, 0x5a, 1, 0x61⟩ : Shift).image? c.toNat = none := by
      simp only [Shift.image?]
      rw [if_neg (fun h => hc ⟨h.1, h.2.1⟩)]
    rw [himage, if_neg hc, Char.ofNat_toNat]

theorem lowerChar_ascii {c : Char} (h : IsAscii c) : lowerChar c = [c.toLower] := by
  have hne : c ≠ 'İ' := by rintro rfl; exact absurd h (by decide)
  rw [lowerChar, if_neg hne, apply_lowerShifts h]

theorem lowerAfter_ascii {l : List Char} (h : ∀ c ∈ l, IsAscii c) (before rest : List Char) :
    lowerAfter before (l ++ rest) =
      l.map Char.toLower ++ lowerAfter (l.reverse ++ before) rest := by
  induction l generalizing before with
  | nil => rfl
  | cons c r ih =>
    have hc : IsAscii c := h c List.mem_cons_self
    have hne : c ≠ 'Σ' := by rintro rfl; exact absurd hc (by decide)
    rw [List.cons_append, lowerAfter, if_neg hne, lowerChar_ascii hc,
      ih fun d hd => h d (List.mem_cons_of_mem _ hd)]
    simp

theorem toList_lowercase_ascii {s : String} (h : ∀ c ∈ s.toList, IsAscii c) :
    (lowercase s).toList = s.toList.map Char.toLower := by
  have := lowerAfter_ascii h [] []
  simpa [lowercase, lowerAfter] using this

theorem lowerAfter_before {rest : List Char} {before : List Char}
    (h : ∀ c ∈ lowerAfter before rest, IsAscii c) (before' : List Char) :
    lowerAfter before' rest = lowerAfter before rest := by
  induction rest generalizing before before' with
  | nil => rfl
  | cons c r ih =>
    rw [lowerAfter] at h
    have hne : c ≠ 'Σ' := by
      rintro rfl
      rw [if_pos rfl] at h
      have hsigma := h _ (List.mem_append_left _ (List.mem_singleton.2 rfl))
      split at hsigma <;> exact absurd hsigma (by decide)
    rw [lowerAfter, lowerAfter, if_neg hne, if_neg hne,
      ih fun d hd => h d (List.mem_append_right _ hd)]

end Selenese.Text
