import Selenese.Proofs.Session.Delayed

/-!
# Selenese.Proofs.Session.Ready

Calls on an element that is there.

* `Session.Ready l i e s`: in the session `s` the element `e` stands under `l` in the place `i`, no
  look-up misses it, and no call is forced to fail.
* `Session.Ready.findElement`: it is found, and `Session.Ready.reading` and `Session.Ready.altering` are
  what a call that reads it or changes it does by its handle. It stays ready.
-/

namespace Selenese.Session

structure Ready (l : Locator) (i : Nat) (e : Element) (s : Session) : Prop where
  probed : l.probedText? = none
  free : ∀ o, s.failures.lookup o = none
  word : i ≤ Text.maxWord
  place : s.locators.idxOf? l = some i
  element : s.elements[i]? = some ⟨l, e, 0⟩

/-- An element that can be told by its place is ready if it has no misses left. -/
theorem exists_ready {l : Locator} (hl : l.probedText? = none) {s : Session} (hfree : ∀ o, s.failures.lookup o = none)
    (hword : s.elements.length ≤ Text.maxWord) {e : Element} (he : s.element? l = some e)
    (hpending : s.pending? l = some 0) : ∃ i, Ready l i e s := by
  obtain ⟨r, hr, rfl⟩ := Option.map_eq_some_iff.1 he
  have hmisses : r.misses = 0 := by simpa [pending?, hr] using hpending
  obtain ⟨i, hi, rfl, hlookup⟩ := exists_place hr
  obtain ⟨hlt, -⟩ := List.getElem?_eq_some_iff.1 hi
  rw [if_pos hmisses] at hlookup
  refine ⟨i, hl, hfree, by omega, lookup_some hlookup, ?_⟩
  rw [hi, ← hmisses]

namespace Ready

variable {l : Locator} {i : Nat} {e : Element} {s : Session} (h : Ready l i e s)

include h

theorem logged (o : Operation) (detail : String) : Ready l i e (s.logged o detail) :=
  ⟨h.probed, h.free, h.word, h.place, h.element⟩

theorem put (e' : Element) : Ready l i e' (s.put i e') := by
  refine ⟨h.probed, h.free, h.word, (s.locators_put i e').symm ▸ h.place, ?_⟩
  rw [Session.put, List.getElem?_modify_eq, h.element]
  rfl

theorem lookup_eq : lookup l s.elements = (some i, s.elements) := by
  have hplace := h.place
  have helement := h.element
  rw [locators] at hplace
  generalize s.elements = elements at hplace helement
  clear h
  induction elements generalizing i with
  | nil => cases helement
  | cons r rest ih =>
    rw [lookup]
    by_cases hr : r.locator = l
    · obtain rfl : i = 0 := by
        simpa [List.idxOf?, List.findIdx?_cons, hr, eq_comm] using hplace
      cases helement
      simp
    · obtain ⟨j, hj, rfl⟩ : ∃ j, (rest.map Registered.locator).idxOf? l = some j ∧ j + 1 = i := by
        simpa [List.idxOf?, List.findIdx?_cons, hr] using hplace
      simp [hr, ih hj helement]

theorem locate_eq : locate l s.elements = (some i, s.elements) := by
  rw [locate_eq_lookup h.probed, h.lookup_eq]

theorem findElement : findElement l s = .ok (handleAt i) (s.afterFind l) := by
  rw [findElement_eq (h.free _), h.locate_eq]

theorem afterFind : Ready l i e (s.afterFind l) := by
  have helements : (s.afterFind l).elements = s.elements := congrArg Prod.snd h.locate_eq
  refine ⟨h.probed, h.free, h.word, ?_, ?_⟩
  · rw [locators, helements]
    exact h.place
  · rw [helements]
    exact h.element

theorem referent? : s.referent? (handleAt i) = some (i, ⟨l, e, 0⟩) := by
  rw [referent?_handleAt, if_pos h.word, h.element]
  rfl

theorem reading {α : Type} (o : Operation) (detail : String) (f : Element → α) :
    (do record o detail; return f (← deref (handleAt i)) : Call α) s = .ok (f e) (s.logged o detail) := by
  rw [record_deref_eq (fun e => pure (f e)), atReferent, h.free o, h.referent?]
  rfl

theorem altering (o : Operation) (detail : String) (f : Element → Element) :
    (do record o detail; store (handleAt i) (f (← deref (handleAt i))) : Call Unit) s =
      .ok () ((s.logged o detail).put i (f e)) := by
  rw [record_deref_eq (fun e => store (handleAt i) (f e)), atReferent, h.free o, h.referent?]
  exact store_of_referent (h.logged o detail).referent? (f e)

theorem element?_eq : s.element? l = some e := by
  rw [element?]
  cases hr : s.elements.find? fun r => r.locator = l with
  | none => exact absurd (decide_eq_true rfl) (List.find?_eq_none.1 hr _ (List.mem_of_getElem? h.element))
  | some r =>
    obtain ⟨j, hj, -, hlookup⟩ := exists_place hr
    rw [h.lookup_eq] at hlookup
    split at hlookup <;> cases hlookup
    cases hj.symm.trans h.element
    rfl

end Ready

end Selenese.Session
