import Mathlib.Data.List.Basic
import Selenese.Proofs.Session.Late
import Selenese.Proofs.Session.Use

/-!
# Selenese.Proofs.Session.Place

Where the registered elements stand, and what a handle finds there later.

* A `Session.Deed` is what can be done to a session: a call, or an edit from outside.
* `Session.locators_runAll`: only edits move elements. They make of the list of locators what
  `Session.Deed.moveAll` tells.
* `Session.use_handleAt`: a use of the handle of a place acts on the element that stands in the
  place, whatever locator it is registered under, and is rejected if there is none.
* `Session.uses_of_found`: so the handle of a found element keeps to its locator as long as no edit
  names that locator or one registered before it, and else as the edits make it.
* `Session.text_of_other`: and it may come to stand for another element.
-/

namespace Selenese.Session

inductive Deed where
  | navigate (url : String)
  | readTitle
  | currentUrl
  | findElement (l : Locator)
  | use (h : Handle) (u : Use)
  | executeScript (code : String)
  | cookieNamed (name : String)
  | deleteCookie (c : Cookie)
  | add (l : Locator) (e : Element) (misses : Nat)
  | remove (l : Locator)
  | failOn (o : Operation) (e : SessionError)
deriving DecidableEq, Repr

namespace Deed

def run (s : Session) : Deed → Session
  | navigate url => stateAfter (Session.navigate url s)
  | readTitle => stateAfter (Session.readTitle s)
  | currentUrl => stateAfter (Session.currentUrl s)
  | findElement l => stateAfter (Session.findElement l s)
  | use h u => stateAfter (u.call h s)
  | executeScript code => stateAfter (Session.executeScript code s)
  | cookieNamed name => stateAfter (Session.cookieNamed name s)
  | deleteCookie c => stateAfter (Session.deleteCookie c s)
  | add l e misses => s.add l e misses
  | remove l => s.remove l
  | failOn o e => s.failOn o e

def runAll (ds : List Deed) (s : Session) : Session := ds.foldl run s

/-- The locator that an edit of the elements names. -/
def edited? : Deed → Option Locator
  | add l _ _ | remove l => some l
  | _ => none

/-- What a deed makes of the locators of the registered elements. -/
def move (ls : List Locator) : Deed → List Locator
  | add l _ _ => ls.filter (· ≠ l) ++ [l]
  | remove l => ls.filter (· ≠ l)
  | _ => ls

def moveAll (ds : List Deed) (ls : List Locator) : List Locator := ds.foldl move ls

end Deed

/-! ## Calls move nothing -/

def locators (s : Session) : List Locator := s.elements.map Registered.locator

def SameLocators (s t : Session) : Prop := t.locators = s.locators

theorem sameLocators_looks : Looks SameLocators where
  refl _ := rfl
  trans h h' := h'.trans h
  log _ _ := rfl
  look s l := by
    have h := congrArg (List.map Prod.fst) (map_locate l s.elements)
    show (locate l s.elements).2.map Registered.locator = s.elements.map Registered.locator
    simpa [List.map_map, Function.comp_def] using h

theorem locators_put (s : Session) (i : Nat) (e : Element) : (s.put i e).locators = s.locators := by
  refine List.ext_getElem? fun j => ?_
  simp only [locators, put, List.getElem?_map, List.getElem?_modify, Functor.map, Option.map_map]
  refine congrArg (Option.map · s.elements[j]?) (funext fun r => ?_)
  dsimp only [Function.comp_apply]
  split <;> rfl

theorem Use.locators_effect (i : Nat) (e : Element) (u : Use) (s : Session) :
    (stateAfter (u.effect i e s)).locators = s.locators := by
  cases u with
  | tagName | text | attributeOf name | isDisplayed => rfl
  | click | clear | sendKeys keys => exact locators_put s i _
  | selectOption choice =>
    rw [effect]
    cases e.select? choice with
    | none => rfl
    | some e' => exact locators_put s i e'

theorem Use.elements_effect {i j : Nat} (e : Element) (u : Use) (s : Session) (hj : j ≠ i) :
    (stateAfter (u.effect i e s)).elements[j]? = s.elements[j]? := by
  have hput (e' : Element) : (s.put i e').elements[j]? = s.elements[j]? :=
    List.getElem?_modify_ne _ _ hj.symm
  cases u with
  | tagName | text | attributeOf name | isDisplayed => rfl
  | click | clear | sendKeys keys => exact hput _
  | selectOption choice =>
    rw [effect]
    cases e.select? choice with
    | none => rfl
    | some e' => exact hput e'

theorem Use.locators_call (u : Use) (h : Handle) (s : Session) :
    (stateAfter (u.call h s)).locators = s.locators := by
  rw [u.call_eq, atReferent]
  cases s.failures.lookup u.operation with
  | some e => rfl
  | none =>
    cases s.referent? h with
    | none => rfl
    | some p => exact u.locators_effect p.1 p.2.element _

theorem locators_remove (s : Session) (l : Locator) :
    (s.remove l).locators = s.locators.filter (· ≠ l) := by
  rw [locators, locators, List.filter_map]
  rfl

theorem Deed.locators_run (d : Deed) (s : Session) : (d.run s).locators = d.move s.locators := by
  have hlooks := sameLocators_looks
  have hrecord (o : Operation) (detail : String) := record_within hlooks o detail
  cases d with
  | navigate url =>
    have h : Within SameLocators anyError (Session.navigate url) :=
      .bind hlooks.toStepwise (hrecord _ _) fun _ => .modify fun _ => rfl
    exact h.related s
  | readTitle => exact (readTitle_within hlooks).related s
  | currentUrl =>
    have h : Within SameLocators anyError Session.currentUrl :=
      .bind hlooks.toStepwise (hrecord _ _) fun _ =>
        .bind hlooks.toStepwise (.get hlooks.toStepwise) fun _ => .pure hlooks.toStepwise _
    exact h.related s
  | findElement l => exact (findElement_within hlooks l).related s
  | use h u => exact u.locators_call h s
  | executeScript code => exact (executeScript_within hlooks code).related s
  | cookieNamed name => exact (cookieNamed_within hlooks name).related s
  | deleteCookie c =>
    have h : Within SameLocators anyError (Session.deleteCookie c) :=
      .bind hlooks.toStepwise (hrecord _ _) fun _ => .modify fun _ => rfl
    exact h.related s
  | add l e misses =>
    show ((s.remove l).elements ++ [_]).map Registered.locator = _
    rw [List.map_append]
    exact congrArg (· ++ [l]) (locators_remove s l)
  | remove l => exact locators_remove s l
  | failOn o e => rfl

theorem locators_runAll (ds : List Deed) (s : Session) :
    (Deed.runAll ds s).locators = Deed.moveAll ds s.locators := by
  induction ds generalizing s with
  | nil => rfl
  | cons d rest ih =>
    show (Deed.runAll rest (d.run s)).locators = Deed.moveAll rest (d.move s.locators)
    rw [ih, d.locators_run]

/-! ## What edits leave in its place -/

/-- An edit of a locator that does not stand among the first ones leaves these where they are. -/
theorem Deed.prefix_move {d : Deed} {first ls : List Locator} (h : first <+: ls)
    (hd : ∀ l, d.edited? = some l → l ∉ first) : first <+: d.move ls := by
  have hkept {l : Locator} (hl : l ∉ first) : first <+: ls.filter (· ≠ l) := by
    obtain ⟨rest, rfl⟩ := h
    have hall : first.filter (· ≠ l) = first := by
      rw [List.filter_eq_self]
      intro l' hl'
      exact decide_eq_true fun heq => hl (heq ▸ hl')
    rw [List.filter_append, hall]
    exact List.prefix_append _ _
  cases d with
  | add l e misses => exact (hkept (hd l rfl)).trans (List.prefix_append _ _)
  | remove l => exact hkept (hd l rfl)
  | _ => exact h

theorem Deed.prefix_moveAll {ds : List Deed} {first ls : List Locator} (h : first <+: ls)
    (hds : ∀ d ∈ ds, ∀ l, d.edited? = some l → l ∉ first) : first <+: Deed.moveAll ds ls := by
  induction ds generalizing ls with
  | nil => exact h
  | cons d rest ih =>
    exact ih (prefix_move h (hds d List.mem_cons_self)) fun d' hd' => hds d' (List.mem_cons_of_mem _ hd')

/-! ## Handles -/

theorem lookup_some {l : Locator} {elements : List Registered} {i : Nat}
    (h : (lookup l elements).1 = some i) : (elements.map Registered.locator).idxOf? l = some i := by
  induction elements generalizing i with
  | nil => cases h
  | cons r rest ih =>
    rw [lookup] at h
    by_cases hr : r.locator = l
    · rw [if_pos hr] at h
      split at h
      · cases h
        simp [List.idxOf?, List.findIdx?_cons, hr]
      · cases h
    · rw [if_neg hr] at h
      obtain ⟨j, hj, rfl⟩ := Option.map_eq_some_iff.1 h
      have hrest := ih hj
      simpa [List.idxOf?, List.findIdx?_cons, hr] using hrest

theorem referent?_handleAt (s : Session) (i : Nat) :
    s.referent? (handleAt i) =
      if i ≤ Text.maxWord then s.elements[i]?.map (i, ·) else none := by
  rw [referent?, position?_handleAt_eq]
  by_cases hword : i ≤ Text.maxWord
  · by_cases hi : i < s.elements.length
    · simp [hword, hi]
    · simp [hword, hi]
  · simp [hword]

/-! ## What becomes of a found element -/

namespace Use

def Forced (h : Handle) (s : Session) (u : Use) : Prop :=
  ∃ e, s.failures.lookup u.operation = some e ∧
    u.call h s = .error e (s.logged u.operation (u.detail h))

def Rejected (h : Handle) (s : Session) (u : Use) : Prop :=
  u.call h s = .error (.stale h.name) (s.logged u.operation (u.detail h))

/-- The use has its effect on the element in the place `i`, which is registered under `l`, and leaves
the other places alone. -/
def ActsOn (i : Nat) (l : Locator) (h : Handle) (s : Session) (u : Use) : Prop :=
  ∃ r, s.elements[i]? = some r ∧ r.locator = l ∧
    u.call h s = u.effect i r.element (s.logged u.operation (u.detail h)) ∧
    ∀ j, j ≠ i → (stateAfter (u.call h s)).elements[j]? = s.elements[j]?

def KeepsTo (l : Locator) (h : Handle) (s : Session) (u : Use) : Prop :=
  u.Forced h s ∨ u.Rejected h s ∨ ∃ i, u.ActsOn i l h s

end Use

/-- The locator in a place that a handle can tell. -/
def standing? (ls : List Locator) (i : Nat) : Option Locator :=
  if i ≤ Text.maxWord then ls[i]? else none

section

variable {s : Session} {u : Use} {h : Handle}

theorem forced_of_lookup {e : SessionError} (hforced : s.failures.lookup u.operation = some e) :
    u.Forced h s := by
  refine ⟨e, hforced, ?_⟩
  rw [Use.call_eq, atReferent, hforced]

theorem rejected_of_referent (hfree : s.failures.lookup u.operation = none)
    (hreferent : s.referent? h = none) : u.Rejected h s := by
  rw [Use.Rejected, Use.call_eq, atReferent, hfree, hreferent]

theorem actsOn_of_referent {p : Nat × Registered} (hfree : s.failures.lookup u.operation = none)
    (hreferent : s.referent? h = some p) (hp : s.elements[p.1]? = some p.2) :
    u.ActsOn p.1 p.2.locator h s := by
  have hcall : u.call h s = u.effect p.1 p.2.element (s.logged u.operation (u.detail h)) := by
    rw [Use.call_eq, atReferent, hfree, hreferent]
  refine ⟨p.2, hp, rfl, hcall, fun j hj => ?_⟩
  rw [hcall]
  exact u.elements_effect p.2.element (s.logged u.operation (u.detail h)) hj

/-- What a handle does is told by the locator that stands in its place. -/
theorem use_handleAt (hfree : s.failures.lookup u.operation = none) (i : Nat) :
    match standing? s.locators i with
    | none => u.Rejected (handleAt i) s
    | some l => u.ActsOn i l (handleAt i) s := by
  have hreferent := s.referent?_handleAt i
  rw [standing?]
  by_cases hword : i ≤ Text.maxWord
  · have hplace : s.locators[i]? = s.elements[i]?.map Registered.locator := List.getElem?_map
    rw [if_pos hword] at hreferent ⊢
    rw [hplace]
    cases hr : s.elements[i]? with
    | none =>
      rw [hr] at hreferent
      exact rejected_of_referent hfree hreferent
    | some r =>
      rw [hr] at hreferent
      exact actsOn_of_referent hfree hreferent hr
  · rw [if_neg hword] at hreferent ⊢
    exact rejected_of_referent hfree hreferent

theorem keepsTo_handleAt {i : Nat} {l : Locator}
    (hl : ∀ l', standing? s.locators i = some l' → l' = l) : u.KeepsTo l (handleAt i) s := by
  cases hforced : s.failures.lookup u.operation with
  | some e => exact .inl (forced_of_lookup hforced)
  | none =>
    have huse := use_handleAt hforced i
    cases hstanding : standing? s.locators i with
    | none =>
      rw [hstanding] at huse
      exact .inr (.inl huse)
    | some l' =>
      rw [hstanding] at huse
      exact .inr (.inr ⟨i, hl l' hstanding ▸ huse⟩)

end

theorem findElement_place {l : Locator} (hl : l.probedText? = none) {s t : Session} {h : Handle}
    (hfind : findElement l s = .ok h t) :
    t.locators = s.locators ∧ ∃ i, s.locators.idxOf? l = some i ∧ h = handleAt i := by
  obtain ⟨i, hi, rfl⟩ := findElement_ok hfind
  rw [locate_eq_lookup hl] at hi
  exact ⟨(findElement_within sameLocators_looks l).ok hfind, i, lookup_some hi, rfl⟩

/-- The place in which a locator was found is still its place if no edit named a locator up to there. -/
theorem getElem?_moveAll {l : Locator} {ls : List Locator} {i : Nat} (hi : ls.idxOf? l = some i)
    {ds : List Deed} (hds : ∀ d ∈ ds, ∀ l', d.edited? = some l' → l' ∉ ls.take (i + 1)) :
    (Deed.moveAll ds ls)[i]? = some l := by
  obtain ⟨hlt, hget, -⟩ := List.idxOf?_eq_some_iff.1 hi
  have hfirst : (ls.take (i + 1))[i]? = some l := by
    rw [List.getElem?_take, if_pos (Nat.lt_succ_self i), List.getElem?_eq_getElem hlt, hget]
  obtain ⟨rest, hrest⟩ := Deed.prefix_moveAll (List.take_prefix (i + 1) ls) hds
  obtain ⟨hlt', -⟩ := List.getElem?_eq_some_iff.1 hfirst
  rw [← hrest, List.getElem?_append_left hlt', hfirst]

theorem uses_of_found {l : Locator} (hl : l.probedText? = none) {s t : Session} {h : Handle}
    (hfind : findElement l s = .ok h t) (ds : List Deed) :
    let s' := Deed.runAll ds t
    let places := Deed.moveAll ds s.locators
    ∃ i, s.locators.idxOf? l = some i ∧ s'.locators = places ∧
      (∀ u : Use, s'.failures.lookup u.operation = none →
        match standing? places i with
        | none => u.Rejected h s'
        | some l' => u.ActsOn i l' h s') ∧
      ((∀ l', standing? places i = some l' → l' = l) → ∀ u : Use, u.KeepsTo l h s') ∧
      ((∀ d ∈ ds, ∀ l', d.edited? = some l' → l' ∉ s.locators.take (i + 1)) →
        ∀ u : Use, u.KeepsTo l h s') := by
  intro s' places
  obtain ⟨hsame, i, hi, rfl⟩ := findElement_place hl hfind
  have hplaces : s'.locators = places := by rw [locators_runAll, hsame]
  refine ⟨i, hi, hplaces, fun u hfree => ?_, fun hstanding u => ?_, fun hds u => ?_⟩
  · rw [← hplaces]
    exact use_handleAt hfree i
  · exact keepsTo_handleAt (hplaces ▸ hstanding)
  · refine keepsTo_handleAt fun l' hl' => ?_
    rw [hplaces, standing?, getElem?_moveAll hi hds] at hl'
    split at hl' <;> cases hl'
    rfl

/-- Elements added behind a found element leave its handle as it is, and where one before it is
removed the handle may find nothing. -/
theorem uses_of_found_last :
    let s := (empty.add (.id "a") (.ofTag "p") 0).add (.id "b") (.ofTag "p") 0
    let t := s.afterFind (.id "b")
    let adding : List Deed := [.add (.id "c") (.ofTag "p") 0, .use (handleAt 1) .click]
    findElement (.id "b") s = .ok (handleAt 1) t ∧
      (∀ u : Use, u.KeepsTo (.id "b") (handleAt 1) (Deed.runAll adding t)) ∧
      ∀ u : Use, u.Rejected (handleAt 1) (Deed.runAll [.remove (.id "a")] t) := by
  intro s t adding
  have hfind : findElement (.id "b") s = .ok (handleAt 1) t := findElement_eq rfl _
  obtain ⟨i, hi, -, -, -, hkeeps⟩ := uses_of_found rfl hfind adding
  obtain ⟨j, hj, -, hremoved, -⟩ := uses_of_found rfl hfind [.remove (.id "a")]
  have hplace : s.locators.idxOf? (.id "b") = some 1 := by decide
  cases hplace.symm.trans hi
  cases hplace.symm.trans hj
  exact ⟨hfind, hkeeps (by decide), fun u => hremoved u rfl⟩

/-- The handle of a removed element stands for the element that moved into its place. -/
theorem text_of_other :
    let a : Element := { Element.ofTag "p" with text := "A" }
    let b : Element := { Element.ofTag "p" with text := "B" }
    let s := (empty.add (.id "a") a 0).add (.id "b") b 0
    ∃ h t, findElement (.id "a") s = .ok h t ∧
      let s' := Deed.runAll [.remove (.id "a")] t
      (∃ u, Use.text.call h s' = .ok (.text "B") u) ∧ ¬ Use.text.KeepsTo (.id "a") h s' := by
  intro a b s
  refine ⟨handleAt 0, s.afterFind (.id "a"), findElement_eq rfl _, ?_⟩
  intro s'
  have hleft : s'.elements = [⟨.id "b", b, 0⟩] := by decide
  have huse : Use.text.ActsOn 0 (.id "b") (handleAt 0) s' :=
    use_handleAt (s := s') (u := .text) rfl 0
  obtain ⟨r, hr, -, hcall, -⟩ := huse
  rw [hleft] at hr
  cases hr
  refine ⟨⟨_, hcall⟩, ?_⟩
  rintro (⟨e, hforced, -⟩ | hrejected | ⟨i, r, hr, hl, -⟩)
  · cases hforced
  · cases hcall.symm.trans hrejected
  · rw [hleft] at hr
    cases i with
    | zero =>
      cases hr
      exact absurd hl (by decide)
    | succ i => cases hr

end Selenese.Session
