import Selenese.Proofs.Text.CaseFold
import Selenese.Proofs.Text.Lowercase

/-!
# Selenese.Proofs.Text.LowerPrefix

Texts whose lower case begins with given letters.

* `Plain x`: only the ASCII letter `x` and its capital have the lower case `x`. Not every letter is
  plain: the Kelvin sign is lowered to `k`, a dotted capital I to `i` and a dot.
* `prefix_lowerAfter`: a lower case that begins with plain letters is that of a text which begins
  with these letters, small or capital.
-/

namespace Selenese.Text

theorem Shift.mem_sources_of_apply {table : List Shift} {c x : Char} (hx : x ≠ '\x00')
    (h : Shift.apply table c = x) : c ∈ x :: Shift.sources table x := by
  unfold Shift.apply at h
  cases hfind : table.findSome? fun s => s.image? c.toNat with
  | none =>
    rw [hfind] at h
    exact List.mem_cons.2 (.inl h)
  | some n =>
    rw [hfind] at h
    -- a code point that is no character would be read as the zero character
    have hvalid : n.isValidChar := by
      by_contra hn
      have hzero : Char.ofNat n = '\x00' := by
        rw [Char.ofNat, dif_neg hn]
        rfl
      exact hx (h.symm.trans hzero)
    have hn : x.toNat = n := by rw [← h, Shift.toNat_ofNat hvalid]
    obtain ⟨s, hs, himage⟩ := List.exists_of_findSome?_eq_some hfind
    have hsource : s.source? x.toNat = some c.toNat := by rw [hn, Shift.source?_eq_some, himage]
    refine List.mem_cons_of_mem _ (List.mem_map.2 ⟨c.toNat, ?_, Char.ofNat_toNat c⟩)
    exact List.mem_filterMap.2 ⟨s, hs, hsource⟩

structure Plain (x : Char) : Prop where
  ascii : IsAscii x
  ne_zero : x ≠ '\x00'
  ne_i : x ≠ 'i'
  sources : (x :: Shift.sources lowerShifts x).all (fun c => c.toLower == x) = true

instance (x : Char) : Decidable (Plain x) :=
  decidable_of_iff (IsAscii x ∧ x ≠ '\x00' ∧ x ≠ 'i' ∧
      (x :: Shift.sources lowerShifts x).all (fun c => c.toLower == x) = true)
    ⟨fun h => ⟨h.1, h.2.1, h.2.2.1, h.2.2.2⟩, fun h => ⟨h.ascii, h.ne_zero, h.ne_i, h.sources⟩⟩

theorem lowerAfter_cons_plain {x : Char} (hx : Plain x) {before r w : List Char} {c : Char}
    (h : x :: w <+: lowerAfter before (c :: r)) :
    c.toLower = x ∧ w <+: lowerAfter (c :: before) r := by
  rw [lowerAfter] at h
  split at h
  · -- neither form of a small sigma is plain
    have hsigma : ¬ IsAscii x := by
      obtain ⟨rfl, -⟩ := List.cons_prefix_cons.1 h
      split <;> decide
    exact absurd hx.ascii hsigma
  · rw [lowerChar] at h
    split at h
    · exact absurd (List.cons_prefix_cons.1 h).1 hx.ne_i
    · obtain ⟨hhead, htail⟩ := List.cons_prefix_cons.1 h
      have hsource := Shift.mem_sources_of_apply hx.ne_zero hhead.symm
      exact ⟨beq_iff_eq.1 (List.all_eq_true.1 hx.sources c hsource), htail⟩

theorem prefix_lowerAfter {w : List Char} (hw : ∀ x ∈ w, Plain x) {before l : List Char}
    (h : w <+: lowerAfter before l) : (l.take w.length).map Char.toLower = w := by
  induction w generalizing before l with
  | nil => rfl
  | cons x w ih =>
    cases l with
    | nil => cases List.prefix_nil.1 h
    | cons c r =>
      obtain ⟨hc, hrest⟩ := lowerAfter_cons_plain (hw x List.mem_cons_self) h
      rw [List.length_cons, List.take_succ_cons, List.map_cons, hc,
        ih (fun y hy => hw y (List.mem_cons_of_mem _ hy)) hrest]

end Selenese.Text
