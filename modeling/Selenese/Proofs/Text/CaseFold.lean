import Mathlib.Data.List.Chain
import Selenese.Pattern.Regex.CharSet

/-!
# Selenese.Proofs.Text.CaseFold

Characters that differ only in case.

* `Text.Shift.Lawful table`: the runs of a table are in order, stay among the characters, and move no
  character to where another run begins.
* `Text.Shift.mem_orbit`: under such a table, a character and the sources of its image are the characters
  with that image. `Text.lawful_foldShifts`: case folding has such a table.
* `Regex.CharSet.mem_fold_single`: so a class of one character, closed under case, holds the characters
  that fold as it does.
-/

namespace Selenese.Text

namespace Shift

/-- No code point that `s` moves to is one that `t` moves: their runs lie apart, or one takes the even
code points and the other the odd ones. -/
def clears (s t : Shift) : Bool :=
  t.hi.blt s.image || (s.hi - s.lo + s.image).blt t.lo ||
    (t.step.beq 2 && (s.step.beq 2 || s.lo.beq s.hi) && ((s.image + t.lo) % 2).beq 1)

/-- The run is not empty and ends before the other begins. -/
def Precedes (s t : Shift) : Prop := s.hi < t.lo ∧ t.lo ≤ t.hi

instance (s t : Shift) : Decidable (s.Precedes t) := inferInstanceAs (Decidable (_ ∧ _))

instance : Trans Precedes Precedes Precedes where
  trans h h' := ⟨by unfold Precedes at h h'; omega, h'.2⟩

/-- The code points from `lo` to `hi` are characters. -/
def AllValid (lo hi : Nat) : Prop := hi < 0xd800 ∨ 0xdfff < lo ∧ hi < 0x110000

instance (lo hi : Nat) : Decidable (AllValid lo hi) := inferInstanceAs (Decidable (_ ∨ _))

structure Lawful (table : List Shift) : Prop where
  ordered : table.Pairwise Precedes
  valid : ∀ s ∈ table, AllValid s.lo s.hi ∧ AllValid s.image (s.hi - s.lo + s.image)
  clear : ∀ s ∈ table, ∀ t ∈ table, s.clears t = true

theorem image?_eq_some {s : Shift} {n m : Nat} :
    s.image? n = some m ↔
      s.lo ≤ n ∧ n ≤ s.hi ∧ (n - s.lo) % s.step = 0 ∧ m = n - s.lo + s.image := by
  unfold image?
  split
  · rename_i h
    simp [h, eq_comm]
  · rename_i h
    simp only [reduceCtorEq, false_iff]
    intro h'
    exact h ⟨h'.1, h'.2.1, h'.2.2.1⟩

/-- The source of a code point is what the run moves there. -/
theorem source?_eq_some {s : Shift} {n m : Nat} : s.source? m = some n ↔ s.image? n = some m := by
  rw [image?_eq_some]
  unfold source?
  split
  · rename_i h
    constructor
    · rintro ⟨⟩
      have hback : m - s.image + s.lo - s.lo = m - s.image := by omega
      rw [hback]
      exact ⟨by omega, h.2.1, h.2.2, by omega⟩
    · rintro ⟨hlo, hhi, hstep, rfl⟩
      simp only [Option.some.injEq]
      omega
  · rename_i h
    simp only [reduceCtorEq, false_iff]
    rintro ⟨hlo, hhi, hstep, rfl⟩
    have hback : n - s.lo + s.image - s.image = n - s.lo := by omega
    rw [hback] at h
    exact h ⟨by omega, by omega, hstep⟩

theorem image?_eq_none_of_clears {s t : Shift} (h : s.clears t = true) {n m : Nat}
    (hs : s.image? n = some m) : t.image? m = none := by
  rw [Option.eq_none_iff_forall_ne_some]
  intro k ht
  obtain ⟨hlo, hhi, hstep, rfl⟩ := image?_eq_some.1 hs
  obtain ⟨hlo', hhi', hstep', _⟩ := image?_eq_some.1 ht
  simp only [clears, Bool.or_eq_true, Bool.and_eq_true, Nat.blt_eq, Nat.beq_eq] at h
  rcases h with (h | h) | ⟨⟨htwo, h⟩, hodd⟩
  · omega
  · omega
  · rw [htwo] at hstep'
    rcases h with h | h
    · rw [h] at hstep
      omega
    · omega

section

variable {table : List Shift} (h : Lawful table)

include h

theorem Lawful.isValidChar {s : Shift} (hs : s ∈ table) {n m : Nat} (hm : s.image? n = some m) :
    n.isValidChar ∧ m.isValidChar := by
  obtain ⟨hlo, hhi, _, rfl⟩ := image?_eq_some.1 hm
  have hvalid := h.valid s hs
  unfold AllValid at hvalid
  unfold Nat.isValidChar
  omega

theorem Lawful.findSome? {s : Shift} (hs : s ∈ table) {n m : Nat} (hm : s.image? n = some m) :
    (table.findSome? fun s => s.image? n) = some m := by
  have hordered := h.ordered
  clear h
  induction table with
  | nil => cases hs
  | cons t rest ih =>
    obtain ⟨hfirst, hrest⟩ := List.pairwise_cons.1 hordered
    rw [List.findSome?_cons]
    rcases List.mem_cons.1 hs with rfl | hs
    · rw [hm]
    · have hnone : t.image? n = none := by
        rw [Option.eq_none_iff_forall_ne_some]
        intro k hk
        have := (hfirst s hs).1
        have := image?_eq_some.1 hk
        have := image?_eq_some.1 hm
        omega
      rw [hnone]
      exact ih hs hrest

theorem Lawful.apply_eq {s : Shift} (hs : s ∈ table) {c : Char} {m : Nat}
    (hm : s.image? c.toNat = some m) : apply table c = Char.ofNat m := by
  rw [apply, h.findSome? hs hm]

omit h in
/-- A character is left alone, or some run moves it. -/
theorem apply_cases (table : List Shift) (c : Char) :
    apply table c = c ∨ ∃ s ∈ table, ∃ m, s.image? c.toNat = some m := by
  unfold apply
  cases hfind : table.findSome? fun s => s.image? c.toNat with
  | none => exact .inl rfl
  | some m =>
    obtain ⟨s, hs, hm⟩ := List.exists_of_findSome?_eq_some hfind
    exact .inr ⟨s, hs, m, hm⟩

omit h in
theorem toNat_ofNat {n : Nat} (hn : n.isValidChar) : (Char.ofNat n).toNat = n := by
  rw [Char.ofNat, dif_pos hn]
  rfl

theorem Lawful.apply_apply (c : Char) : apply table (apply table c) = apply table c := by
  rcases apply_cases table c with hc | ⟨s, hs, m, hm⟩
  · rw [hc, hc]
  · rw [h.apply_eq hs hm]
    rcases apply_cases table (Char.ofNat m) with hc | ⟨t, ht, k, hk⟩
    · exact hc
    · rw [toNat_ofNat (h.isValidChar hs hm).2, image?_eq_none_of_clears (h.clear s hs t ht) hm] at hk
      cases hk

theorem Lawful.mem_sources {c d : Char} :
    c ∈ sources table d ↔ ∃ s ∈ table, s.image? c.toNat = some d.toNat := by
  unfold sources
  simp only [List.mem_map, List.mem_filterMap, source?_eq_some]
  constructor
  · rintro ⟨n, ⟨s, hs, hn⟩, rfl⟩
    rw [← toNat_ofNat (h.isValidChar hs hn).1] at hn
    exact ⟨s, hs, hn⟩
  · rintro ⟨s, hs, hn⟩
    exact ⟨c.toNat, ⟨s, hs, hn⟩, Char.ofNat_toNat c⟩

theorem Lawful.mem_orbit {c d : Char} :
    c ∈ apply table d :: sources table (apply table d) ↔ apply table c = apply table d := by
  rw [List.mem_cons, h.mem_sources]
  constructor
  · rintro (rfl | ⟨s, hs, hm⟩)
    · exact h.apply_apply d
    · rw [h.apply_eq hs hm, Char.ofNat_toNat]
  · intro hsame
    rcases apply_cases table c with hc | ⟨s, hs, m, hm⟩
    · exact .inl (hc.symm.trans hsame)
    · rw [h.apply_eq hs hm] at hsame
      rw [← hsame, toNat_ofNat (h.isValidChar hs hm).2]
      exact .inr ⟨s, hs, hm⟩

end

end Shift

theorem lawful_foldShifts : Shift.Lawful foldShifts where
  ordered := by
    have hchain : foldShifts.IsChain Shift.Precedes := by decide +kernel
    exact hchain.pairwise
  valid := by decide +kernel
  clear := by
    have hall : (foldShifts.all fun s => foldShifts.all s.clears) = true := by decide +kernel
    intro s hs t ht
    exact List.all_eq_true.1 (List.all_eq_true.1 hall s hs) t ht

theorem sameFold_iff {c d : Char} : sameFold c d = true ↔ foldCase c = foldCase d := beq_iff_eq

theorem mem_caseOrbit {c d : Char} : c ∈ caseOrbit d ↔ sameFold c d = true :=
  lawful_foldShifts.mem_orbit.trans sameFold_iff.symm

example : caseOrbit 'S' = ['s', 'S', '\u017f'] ∧ caseOrbit '\ufb05' = ['\ufb06', '\ufb05'] := by
  decide +kernel

end Selenese.Text

namespace Selenese.Regex.CharSet

open Text

theorem mem_single {c d : Char} : (single c).mem d = true ↔ d = c := by
  simp only [single, mem, Bool.and_eq_true, decide_eq_true_eq]
  constructor
  · rintro ⟨hle, hge⟩
    exact Char.le_antisymm hge hle
  · rintro rfl
    exact ⟨Char.le_refl _, Char.le_refl _⟩

theorem mem_fold_single {c d : Char} : (fold false (single c)).mem d = true ↔ sameFold c d = true := by
  simp only [mem, Bool.or_eq_true, List.any_eq_true, mem_single, exists_eq_right, mem_caseOrbit]
  constructor
  · rintro (rfl | h)
    · exact sameFold_iff.2 rfl
    · exact h
  · exact .inr

end Selenese.Regex.CharSet
