import Selenese.Proofs.Locator.TextProbe
import Selenese.Proofs.Session.Find

/-!
# Selenese.Proofs.Session.TextSearch

Searching a page for a text.

* `Registered.Shows t r`: the element is there, with the text `t` somewhere in its own text.
* `Session.FirstShowing t elements i`: the element in the place `i` is the first that shows `t`.
  `Session.locate_containingText`: it is what the probe for `t` locates, and elements that are not
  there yet stay as far away as they were.
* `Session.findElement_containingText`: so a text is found wherever it is, whatever quotes, commas
  and brackets are in it.
-/

namespace Selenese

open Locator

def Registered.Shows (t : String) (r : Registered) : Prop :=
  r.misses = 0 ∧ t.toList <:+: r.element.text.toList

namespace Session

structure FirstShowing (t : String) (elements : List Registered) (i : Nat) : Prop where
  shows : ∃ r, elements[i]? = some r ∧ r.Shows t
  first : ∀ j r, j < i → elements[j]? = some r → ¬ r.Shows t

theorem locate_containingText (t : String) (elements : List Registered) :
    locate (containingText t) elements =
      (elements.findIdx? fun r => r.misses = 0 && Text.contains r.element.text t, elements) := by
  rw [locate, probedText?_containingText]

theorem shows_iff (t : String) (r : Registered) :
    (decide (r.misses = 0) && Text.contains r.element.text t) = true ↔ r.Shows t := by
  rw [Bool.and_eq_true, decide_eq_true_eq, Text.contains_iff, Registered.Shows]

theorem FirstShowing.locate_eq {t : String} {elements : List Registered} {i : Nat}
    (h : FirstShowing t elements i) : (locate (containingText t) elements).1 = some i := by
  obtain ⟨r, hr, hshows⟩ := h.shows
  obtain ⟨hi, rfl⟩ := List.getElem?_eq_some_iff.1 hr
  rw [locate_containingText, List.findIdx?_eq_some_iff_getElem]
  refine ⟨hi, (shows_iff t _).2 hshows, ?_⟩
  intro j hj
  rw [shows_iff]
  exact h.first j _ hj (List.getElem?_eq_getElem (Nat.lt_trans hj hi))

theorem locate_eq_none {t : String} {elements : List Registered}
    (h : ∀ r ∈ elements, ¬ r.Shows t) : (locate (containingText t) elements).1 = none := by
  rw [locate_containingText, List.findIdx?_eq_none_iff]
  intro r hr
  rw [Bool.eq_false_iff, Ne, shows_iff]
  exact h r hr

/-- **Searching a page for a text is exact.** Whatever the text, it is quoted as a string expression
of XPath whose value is the text: one literal, or a call of `concat` with two or more literals. The
probe for the text tells this text to the session. So unless look-ups are forced to fail, the probe
answers the handle of the first element that is there and shows the text; it fails with a missing
element if there is none; and no element comes nearer to being there. -/
theorem findElement_containingText (t : String) :
    Denotes (quoteLiteral t.toList) t.toList ∧ probedText? (containingText t) = some t ∧
      ∀ s : Session, s.failures.lookup .findElement = none →
        let out := findElement (containingText t) s
        (∀ i, FirstShowing t s.elements i → ∃ s', out = .ok (handleAt i) s') ∧
          ((∀ r ∈ s.elements, ¬ r.Shows t) →
            ∃ s', out = .error (.noSuchElement (containingText t).display) s') ∧
          (stateAfter out).elements = s.elements := by
  refine ⟨quoteLiteral_denotes t.toList, probedText?_containingText t, ?_⟩
  intro s hs out
  have hout : out = findElement (containingText t) s := rfl
  have helements : (s.afterFind (containingText t)).elements = s.elements :=
    congrArg Prod.snd (locate_containingText t s.elements)
  rw [findElement_eq hs] at hout
  refine ⟨?_, ?_, ?_⟩
  · intro i hi
    rw [hi.locate_eq] at hout
    exact ⟨_, hout⟩
  · intro hnone
    rw [locate_eq_none hnone] at hout
    exact ⟨_, hout⟩
  · rw [hout]
    cases (locate (containingText t) s.elements).1 <;> exact helements

/-- A text with both kinds of quotes, on a page where it is to appear in one element and stands in
another. -/
theorem findElement_containingText_quotes :
    let t := "it's \"new\", (yes)"
    let shown (text : String) : Element := { Element.ofTag "p" with text := text }
    let s := ((Session.empty.add (.id "late") (shown t) 1).add (.id "other") (shown "new") 0).add
      (.id "news") (shown ("Well, " ++ t)) 0
    s.failures.lookup .findElement = none ∧ FirstShowing t s.elements 2 ∧
      ∃ s', findElement (containingText t) s = .ok (handleAt 2) s' ∧ s'.elements = s.elements := by
  intro t shown s
  have hfirst : FirstShowing t s.elements 2 := by
    constructor
    · exact ⟨⟨.id "news", shown ("Well, " ++ t), 0⟩, rfl, (shows_iff t _).1 (by decide +kernel)⟩
    · intro j r hj hr
      rw [← shows_iff]
      have hplace : j = 0 ∨ j = 1 := by omega
      rcases hplace with rfl | rfl
      · cases hr
        decide +kernel
      · cases hr
        decide +kernel
  obtain ⟨hfound, _, helements⟩ := (findElement_containingText t).2.2 s rfl
  obtain ⟨s', hs'⟩ := hfound 2 hfirst
  rw [hs'] at helements
  exact ⟨rfl, hfirst, s', hs', helements⟩

end Session

end Selenese
