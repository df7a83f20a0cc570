import Selenese.CharRef.Decode

/-!
# Selenese.Proofs.CharRef.Decode

What decoding character references does to a text.

* `CharRef.decode_append_left`: what stands before the first ampersand stays as it is.
* `CharRef.length_decodeChars_lt`: a reference that is decoded makes the text shorter.
* `CharRef.decode_eq_self_iff`: so a text stays as it is if and only if there is no reference in it.
-/

namespace Selenese.CharRef

theorem decodeChars_append {p : List Char} (hp : '&' ∉ p) (l : List Char) :
    decodeChars (p ++ l) = p ++ decodeChars l := by
  induction p with
  | nil => rfl
  | cons c p ih =>
    have hc : c ≠ '&' := fun h => hp (h ▸ List.mem_cons_self)
    rw [List.cons_append, decodeChars, if_neg hc, ih fun h => hp (List.mem_cons_of_mem _ h), List.cons_append]

theorem decode_append_left {p : String} (hp : '&' ∉ p.toList) (s : String) : decode (p ++ s) = p ++ decode s := by
  rw [decode, String.toList_append, decodeChars_append hp, String.ofList_append, String.ofList_toList, decode]

/-- A reference takes its semicolon, and no more than there is. -/
theorem reference?_length {r : List Char} {d : Char} {n : Nat} (h : reference? r = some (d, n)) :
    1 ≤ n ∧ n ≤ r.length := by
  unfold reference? at h
  dsimp only at h
  split at h
  · obtain ⟨d', -, hd⟩ := Option.map_eq_some_iff.1 h
    cases hd
    omega
  · cases h

theorem length_decodeChars_le (l : List Char) : (decodeChars l).length ≤ l.length := by
  fun_induction decodeChars l with
  | case1 => exact Nat.le_refl 0
  | case2 r d n href ih =>
    have hn := reference?_length href
    rw [List.length_drop] at ih
    simp only [List.length_cons]
    omega
  | case3 r _ ih => exact Nat.succ_le_succ ih
  | case4 c r _ ih => exact Nat.succ_le_succ ih

theorem length_decodeChars_lt {r : List Char} (h : reference? r ≠ none) :
    (decodeChars ('&' :: r)).length < ('&' :: r).length := by
  obtain ⟨⟨d, n⟩, href⟩ := Option.ne_none_iff_exists'.1 h
  have hn := reference?_length href
  have hle := length_decodeChars_le (r.drop n)
  rw [List.length_drop] at hle
  rw [decodeChars, if_pos rfl, href]
  simp only [List.length_cons]
  omega

/-- No reference begins anywhere in the text. -/
def NoReference (l : List Char) : Prop := ∀ r, '&' :: r <:+ l → reference? r = none

theorem noReference_cons {c : Char} {l : List Char} :
    NoReference (c :: l) ↔ (c = '&' → reference? l = none) ∧ NoReference l := by
  constructor
  · intro h
    refine ⟨?_, fun r hr => h r (hr.trans (List.suffix_cons c l))⟩
    rintro rfl
    exact h l (List.suffix_refl _)
  · rintro ⟨hfirst, hrest⟩ r hr
    rcases List.suffix_cons_iff.1 hr with heq | hr
    · cases heq
      exact hfirst rfl
    · exact hrest r hr

theorem decodeChars_eq_self_iff (l : List Char) : decodeChars l = l ↔ NoReference l := by
  induction l with
  | nil =>
    refine iff_of_true (by rw [decodeChars]) fun r hr => ?_
    exact absurd (List.eq_nil_of_suffix_nil hr) (List.cons_ne_nil _ _)
  | cons c r ih =>
    rw [noReference_cons]
    by_cases hc : c = '&'
    · subst hc
      by_cases href : reference? r = none
      · rw [decodeChars, if_pos rfl, href, List.cons.injEq, ih]
        simp
      · -- The text that is decoded is shorter, so it is not the same.
        refine iff_of_false (fun h => ?_) fun h => href (h.1 rfl)
        have hlt := length_decodeChars_lt href
        rw [h] at hlt
        exact Nat.lt_irrefl _ hlt
    · rw [decodeChars, if_neg hc, List.cons.injEq, ih]
      simp [hc]

theorem decode_eq_self_iff (s : String) : decode s = s ↔ NoReference s.toList := by
  rw [← decodeChars_eq_self_iff, decode]
  constructor
  · intro h
    rw [← String.toList_ofList (l := decodeChars s.toList), h]
  · intro h
    rw [h, String.ofList_toList]

end Selenese.CharRef
