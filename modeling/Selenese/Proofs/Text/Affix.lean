import Mathlib.Data.List.Basic
import Selenese.Text.Affix

/-!
# Selenese.Proofs.Text.Affix

Pieces of texts that were put together.

* `afterPrefix?_eq_some`: what follows a prefix. `afterPrefix?_append` and `beforeSuffix?_append`: a
  text that was put before or behind another is taken off again.
* `contains_iff`: a text contains another if that one stands somewhere in it.
* `replace_flatMap`: a text of two characters is replaced piece by piece in a text put together from
  pieces, if no occurrence crosses from one piece to the next.
-/

namespace Selenese.Text

theorem isPrefixOf?_append (p l : List Char) : p.isPrefixOf? (p ++ l) = some l :=
  List.isPrefixOf?_eq_some_iff_append_eq.2 rfl

theorem afterPrefix?_eq_some {p s rest : String} : afterPrefix? p s = some rest ↔ s = p ++ rest := by
  rw [afterPrefix?, Option.map_eq_some_iff, ← String.toList_inj, String.toList_append]
  constructor
  · rintro ⟨l, hl, rfl⟩
    rw [String.toList_ofList, List.isPrefixOf?_eq_some_iff_append_eq.1 hl]
  · intro hs
    rw [hs]
    exact ⟨rest.toList, isPrefixOf?_append p.toList rest.toList, String.ofList_toList⟩

theorem afterPrefix?_append (p s : String) : afterPrefix? p (p ++ s) = some s :=
  afterPrefix?_eq_some.2 rfl

theorem beforeSuffix?_append (p s : String) : beforeSuffix? p (s ++ p) = some s := by
  rw [beforeSuffix?, String.toList_append, List.reverse_append, isPrefixOf?_append,
    Option.map_some, List.reverse_reverse, String.ofList_toList]

theorem occursIn_iff (needle l : List Char) : occursIn needle l = true ↔ needle <:+: l := by
  induction l with
  | nil => rw [occursIn, List.isEmpty_iff, List.infix_nil]
  | cons c r ih =>
    rw [occursIn, Bool.or_eq_true, List.isPrefixOf_iff_prefix, ih, List.infix_cons_iff]

theorem contains_iff (s needle : String) :
    contains s needle = true ↔ needle.toList <:+: s.toList := occursIn_iff _ _

/-! ## Replacing a text of two characters -/

section

variable {a b : Char} {new : List Char}

theorem replace_here (r : List Char) : replace [a, b] new (a :: b :: r) = new ++ replace [a, b] new r := by
  simp [replace, replaceAfter]

theorem replace_cons {c : Char} {r : List Char} (h : c ≠ a ∨ r.head? ≠ some b) :
    replace [a, b] new (c :: r) = c :: replace [a, b] new r := by
  cases r with
  | nil => simp [replace, replaceAfter, List.isPrefixOf]
  | cons d r =>
    have hnot : List.isPrefixOf [a, b] (c :: d :: r) = false := by
      rcases h with h | h
      · simp [List.isPrefixOf, h.symm]
      · simp only [List.head?_cons, ne_eq, Option.some.injEq] at h
        simp [List.isPrefixOf, Ne.symm h]
    unfold replace
    rw [replaceAfter, hnot]
    rfl

theorem replace_flatMap {f g : Char → List Char}
    (hhead : ∀ c r, r.head? ≠ some b → (f c ++ r).head? ≠ some b)
    (hstep : ∀ c r, r.head? ≠ some b → replace [a, b] new (f c ++ r) = g c ++ replace [a, b] new r)
    (l : List Char) : replace [a, b] new (l.flatMap f) = l.flatMap g := by
  have hheads (l : List Char) : (l.flatMap f).head? ≠ some b := by
    induction l with
    | nil => simp
    | cons c r ih => exact hhead c _ ih
  induction l with
  | nil => rfl
  | cons c r ih => rw [List.flatMap_cons, hstep c _ (hheads r), ih, List.flatMap_cons]

end

end Selenese.Text
