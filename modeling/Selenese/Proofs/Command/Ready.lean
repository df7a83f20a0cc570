import Selenese.Proofs.Command.Page
import Selenese.Proofs.Session.Ready
import Selenese.Proofs.Text.Affix

/-!
# Selenese.Proofs.Command.Ready

What commands do to an element that is there.

* `Context.Leaves l i e' x y`: the command changes only the session, and leaves `e'` in the place `i`.
* `Behaviour.clear_ready`, `Behaviour.type_ready`, `Behaviour.storeText_ready`: what these commands leave.
* `Behaviour.checkValueOrText_ready`: a check compares what the element shows, its value or its text.
* `Pattern.check_exact`: and compares it as it is where the expected value asks for that.
-/

namespace Selenese

/-- What a check reads of an element: the value of an input, the text of any other. -/
def Session.shown (e : Element) : String := if isInput e.tag then e.value?.getD "" else e.text

/-- What a command makes of a context if it changes only the session, and leaves `e'` in the place `i`. -/
def Context.Leaves (l : Locator) (i : Nat) (e' : Element) (x y : Context) : Prop :=
  ∃ s, y = { x with session := s } ∧ Session.Ready l i e' s

open Selenese.Action Session

theorem Action.call_of_ok {α : Type} {c : Session.Call α} {x : Context} {a : α} {s : Session}
    (h : c x.session = .ok a s) : call c x = .ok a { x with session := s } := by
  rw [call, h]

namespace Behaviour

variable (options : Options) {line : Line} {x : Context} {l : Locator} {i : Nat} {e : Element}
  (htarget : Locator.resolve (x.store.decode line.target) = l) (h : Ready l i e x.session)

include htarget h

theorem find_ready : find line x = .ok (handleAt i) { x with session := x.session.afterFind l } := by
  rw [find_eq, htarget]
  exact call_of_ok h.findElement

theorem clear_ready : ∃ y, clear.execute options line x = .ok () y ∧ Context.Leaves l i e.clear x y := by
  have hready := h.afterFind
  refine ⟨_, bind_eq_ok.2 ⟨_, _, find_ready htarget h, call_of_ok (hready.altering _ _ Element.clear)⟩, _, rfl, ?_⟩
  exact (hready.logged _ _).put _

theorem type_ready : ∃ y, type.execute options line x = .ok () y ∧
    Context.Leaves l i (e.type (x.store.decode line.value)) x y := by
  have hready := h.afterFind
  refine ⟨_, bind_eq_ok.2 ⟨_, _, rfl, bind_eq_ok.2 ⟨_, _, find_ready htarget h,
    call_of_ok (hready.altering _ _ (Element.type · (x.store.decode line.value)))⟩⟩, _, rfl, ?_⟩
  exact (hready.logged _ _).put _

theorem storeText_ready : ∃ s, Ready l i e s ∧
    storeText.execute options line x = .ok () { x with session := s, store := x.store.set line.value e.text } := by
  have hready := h.afterFind
  exact ⟨_, hready.logged _ _, bind_eq_ok.2 ⟨_, _, find_ready htarget h, bind_eq_ok.2 ⟨_, _,
    call_of_ok (hready.reading _ _ Element.text), rfl⟩⟩⟩

omit htarget in
theorem shown_ready : ∃ s, Ready l i e s ∧ ∀ next : String → Action Unit,
    (if isInput e.tag then (·.getD "") <$> call (attributeOf (handleAt i) "value") >>= next
      else call (Session.text (handleAt i)) >>= next) x = next (shown e) { x with session := s } := by
  by_cases hinput : isInput e.tag = true
  · refine ⟨_, h.logged .attributeOf ((handleAt i).name ++ "@" ++ "value"), fun next => ?_⟩
    rw [if_pos hinput, shown, if_pos hinput, map_eq_pure_bind, bind_assoc]
    exact bind_of_ok (call_of_ok (h.reading .attributeOf _ fun e => e.attribute? "value")) _
  · refine ⟨_, h.logged .text (handleAt i).name, fun next => ?_⟩
    rw [if_neg hinput, shown, if_neg hinput]
    exact bind_of_ok (call_of_ok (h.reading .text _ Element.text)) _

theorem checkValueOrText_ready : ∃ y, Context.Leaves l i e x y ∧
    checkValueOrText.execute options line x =
      match Pattern.check (shown e) (x.store.decode line.value) with
      | .ok () => .ok () y
      | .error m => .error (.ofMatch m) y := by
  have hfound := h.afterFind
  have htag := hfound.logged .tagName (handleAt i).name
  obtain ⟨s, hs, hshown⟩ := shown_ready (x := { x with session := _ }) htag
  refine ⟨_, ⟨s, rfl, hs⟩, ?_⟩
  refine (bind_of_ok (find_ready htarget h) _).trans ?_
  refine (bind_of_ok (call_of_ok (hfound.reading .tagName _ Element.tag)) _).trans ?_
  refine (hshown _).trans ?_
  refine (bind_of_ok (m := Action.decode line.value) rfl _).trans ?_
  cases Pattern.check (shown e) (x.store.decode line.value) <;> rfl

end Behaviour

namespace Pattern

theorem split_exact (p : String) : split ("exact:" ++ p) = (.exact, p) := by
  rw [split, Text.afterPrefix?_append]

theorem check_exact (actual p : String) : check actual ("exact:" ++ p) =
    if actual = p then .ok () else .error (.different .exact p actual) := by
  rw [check, split_exact]
  by_cases h : actual = p
  · simp [test, h]
  · have hne : (actual == p) = false := beq_false_of_ne h
    simp [test, h, hne]

end Pattern

end Selenese
