import Mathlib.Data.List.Pairwise
import Selenese.Locator
import Selenese.Proofs.Text.Affix

/-!
# Selenese.Proofs.Locator.Spelling

Every locator has one canonical spelling.

* `Locator.canonical` rewrites a target: `identifier=` becomes `id=`, and an expression without a prefix
  gets the one of XPath.
* `Locator.display_resolve`: what a target resolves to is displayed as its canonical spelling.
* `Locator.resolve_spelling`: a locator resolves to itself from its display, and two targets are one
  locator if and only if they have one canonical spelling.
-/

namespace Selenese.Locator

open Text (afterPrefix?)

/-- The texts that tell the strategy of a target. -/
def marks : List String := ["css=", "id=", "identifier=", "name=", "link=", "xpath="]

def isMarked (raw : String) : Bool := marks.any fun m => m.toList.isPrefixOf raw.toList

def canonical (raw : String) : String :=
  match afterPrefix? "identifier=" raw with
  | some rest => "id=" ++ rest
  | none => if isMarked raw then raw else "xpath=" ++ raw

/-! ## Targets with and without a mark -/

/-- Neither of two texts begins the other. -/
def Apart (p q : String) : Prop := ¬ p.toList <+: q.toList ∧ ¬ q.toList <+: p.toList

instance (p q : String) : Decidable (Apart p q) := inferInstanceAs (Decidable (_ ∧ _))

instance : Std.Symm Apart := ⟨fun _ _ h => ⟨h.2, h.1⟩⟩

theorem marks_eq : marks = prefixes.map Prod.fst := rfl

theorem marks_apart : marks.Pairwise Apart := by decide

theorem apart_of_ne {p q : String} (hp : p ∈ marks) (hq : q ∈ marks) (h : p ≠ q) : Apart p q :=
  marks_apart.forall hp hq h

theorem afterPrefix?_of_apart {p q : String} (h : Apart p q) (rest : String) :
    afterPrefix? p (q ++ rest) = none := by
  rw [Option.eq_none_iff_forall_ne_some]
  intro r hr
  have heq : q.toList ++ rest.toList = p.toList ++ r.toList := by
    rw [← String.toList_append, ← String.toList_append, Text.afterPrefix?_eq_some.1 hr]
  have hq : q.toList <+: p.toList ++ r.toList := heq ▸ List.prefix_append _ _
  rcases List.prefix_or_prefix_of_prefix (List.prefix_append p.toList r.toList) hq with hpq | hqp
  · exact h.1 hpq
  · exact h.2 hqp

/-- The first entry of a table whose text begins a target is the only one. -/
theorem findSome?_of_apart {table : List (String × (String → Locator))}
    (h : (table.map Prod.fst).Pairwise Apart) {p : String × (String → Locator)} (hp : p ∈ table)
    (rest : String) :
    (table.findSome? fun q => (afterPrefix? q.1 (p.1 ++ rest)).map q.2) = some (p.2 rest) := by
  induction table with
  | nil => cases hp
  | cons q r ih =>
    rw [List.map_cons, List.pairwise_cons] at h
    rcases List.mem_cons.1 hp with rfl | hp
    · rw [List.findSome?_cons, Text.afterPrefix?_append]
      rfl
    · have hother : afterPrefix? q.1 (p.1 ++ rest) = none :=
        afterPrefix?_of_apart (h.1 p.1 (List.mem_map_of_mem hp)) rest
      rw [List.findSome?_cons, hother]
      exact ih h.2 hp

theorem resolve_append {p : String × (String → Locator)} (hp : p ∈ prefixes) (rest : String) :
    resolve (p.1 ++ rest) = p.2 rest := by
  have hfound := findSome?_of_apart (marks_eq ▸ marks_apart) hp rest
  rw [resolve, hfound]

theorem isMarked_iff (raw : String) :
    isMarked raw = true ↔ ∃ p ∈ prefixes, ∃ rest, raw = p.1 ++ rest := by
  simp only [isMarked, marks_eq, List.any_map, List.any_eq_true, Function.comp_apply,
    List.isPrefixOf_iff_prefix]
  constructor
  · rintro ⟨p, hp, l, hl⟩
    refine ⟨p, hp, String.ofList l, ?_⟩
    rw [← String.toList_inj, String.toList_append, String.toList_ofList, hl]
  · rintro ⟨p, hp, rest, rfl⟩
    rw [String.toList_append]
    exact ⟨p, hp, List.prefix_append _ _⟩

theorem resolve_of_not_isMarked {raw : String} (h : isMarked raw = false) :
    resolve raw = xpath raw := by
  have hnone : (prefixes.findSome? fun p => (afterPrefix? p.1 raw).map p.2) = none := by
    rw [List.findSome?_eq_none_iff]
    intro p hp
    cases hrest : afterPrefix? p.1 raw with
    | none => rfl
    | some rest =>
      have hmarked := (isMarked_iff raw).2 ⟨p, hp, rest, Text.afterPrefix?_eq_some.1 hrest⟩
      rw [h] at hmarked
      cases hmarked
  rw [resolve, hnone]

/-! ## Spellings -/

/-- The mark that a locator is displayed with. -/
def canonicalMark (m : String) : String := if m = "identifier=" then "id=" else m

theorem display_of_mem {p : String × (String → Locator)} (hp : p ∈ prefixes) (rest : String) :
    (p.2 rest).display = canonicalMark p.1 ++ rest := by
  simp only [prefixes, List.mem_cons, List.not_mem_nil, or_false] at hp
  rcases hp with rfl | rfl | rfl | rfl | rfl | rfl <;> rfl

theorem canonical_append {p : String × (String → Locator)} (hp : p ∈ prefixes) (rest : String) :
    canonical (p.1 ++ rest) = canonicalMark p.1 ++ rest := by
  have hmarked : isMarked (p.1 ++ rest) = true := (isMarked_iff _).2 ⟨p, hp, rest, rfl⟩
  rw [canonical, canonicalMark]
  by_cases halias : p.1 = "identifier="
  · rw [halias, Text.afterPrefix?_append, if_pos rfl]
  · have hother : Apart "identifier=" p.1 :=
      apart_of_ne (by decide) (marks_eq ▸ List.mem_map_of_mem hp) (Ne.symm halias)
    rw [afterPrefix?_of_apart hother, if_neg halias]
    exact if_pos hmarked

theorem canonical_of_not_isMarked {raw : String} (h : isMarked raw = false) :
    canonical raw = "xpath=" ++ raw := by
  have hother : afterPrefix? "identifier=" raw = none := by
    rw [Option.eq_none_iff_forall_ne_some]
    intro rest hrest
    have hmarked : isMarked raw = true :=
      (isMarked_iff raw).2 ⟨("identifier=", id), by simp [prefixes], rest,
        Text.afterPrefix?_eq_some.1 hrest⟩
    rw [h] at hmarked
    cases hmarked
  rw [canonical, hother]
  exact if_neg (by simp [h])

theorem display_resolve (raw : String) : (resolve raw).display = canonical raw := by
  cases h : isMarked raw with
  | true =>
    obtain ⟨p, hp, rest, rfl⟩ := (isMarked_iff raw).1 h
    rw [resolve_append hp, display_of_mem hp, canonical_append hp]
  | false =>
    rw [resolve_of_not_isMarked h, canonical_of_not_isMarked h]
    rfl

theorem resolve_display (l : Locator) : resolve l.display = l := by
  cases l with
  | css s => exact resolve_append (p := ("css=", css)) (by simp [prefixes]) s
  | id s => exact resolve_append (p := ("id=", id)) (by simp [prefixes]) s
  | name s => exact resolve_append (p := ("name=", name)) (by simp [prefixes]) s
  | linkText s => exact resolve_append (p := ("link=", linkText)) (by simp [prefixes]) s
  | xpath s => exact resolve_append (p := ("xpath=", xpath)) (by simp [prefixes]) s

/-- The display of a locator is the one canonical spelling of all targets that resolve to it. -/
theorem resolve_spelling :
    (∀ l : Locator, resolve l.display = l) ∧
    (∀ raw, resolve (resolve raw).display = resolve raw ∧
      (resolve (resolve raw).display).display = (resolve raw).display) ∧
    ∀ r s, resolve r = resolve s ↔ canonical r = canonical s := by
  refine ⟨resolve_display, fun raw => ?_, fun r s => ?_⟩
  · rw [resolve_display]
    exact ⟨rfl, rfl⟩
  · constructor
    · intro h
      rw [← display_resolve, ← display_resolve, h]
    · intro h
      rw [← resolve_display (resolve r), ← resolve_display (resolve s), display_resolve,
        display_resolve, h]

end Selenese.Locator
