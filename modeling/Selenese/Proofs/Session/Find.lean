import Selenese.Proofs.Within
import Selenese.Session

/-!
# Selenese.Proofs.Session.Find

Looking up elements, and the entries that calls leave in the log.

* `Session.findElement_eq` and `Session.findElement_forced`: what a look-up answers and leaves, where
  it is not forced to fail and where it is.
* `Session.findCalls` counts the look-ups in the log: a look-up counts once
  (`Session.findCalls_findElement`), a reading of an element does not (`Session.findCalls_reading`).
-/

namespace Selenese.Session

/-! ## Answers -/

/-- The session with one more call in its log. -/
def logged (s : Session) (o : Operation) (detail : String) : Session :=
  { s with calls := s.calls ++ [o.name ++ ":" ++ detail] }

/-- The session after a look-up that is not forced to fail. -/
def afterFind (s : Session) (l : Locator) : Session :=
  { s.logged .findElement l.display with
    finds := countFind l s.finds
    elements := (locate l s.elements).2 }

theorem record_eq (o : Operation) (detail : String) (s : Session) :
    record o detail s =
      match s.failures.lookup o with
      | some e => .error e (s.logged o detail)
      | none => .ok () (s.logged o detail) := rfl

theorem findElement_forced {s : Session} {e : SessionError}
    (h : s.failures.lookup .findElement = some e) (l : Locator) :
    findElement l s = .error e (s.logged .findElement l.display) := by
  show EStateM.bind (record .findElement l.display) _ s = _
  rw [EStateM.bind, record_eq, h]

theorem findElement_eq {s : Session} (h : s.failures.lookup .findElement = none) (l : Locator) :
    findElement l s =
      match (locate l s.elements).1 with
      | some i => .ok (handleAt i) (s.afterFind l)
      | none => .error (.ofLocator l) (s.afterFind l) := by
  show EStateM.bind (record .findElement l.display) _ s = _
  rw [EStateM.bind, record_eq, h]
  cases hfound : (locate l s.elements).1 with
  | some i =>
    show (match (locate l s.elements).1 with | some i => _ | none => _ : Call Handle) _ = _
    rw [hfound]
    rfl
  | none =>
    show (match (locate l s.elements).1 with | some i => _ | none => _ : Call Handle) _ = _
    rw [hfound]
    rfl

theorem errorOf?_findElement (l : Locator) (s : Session) :
    errorOf? (findElement l s) = match s.failures.lookup .findElement with
      | some e => some e
      | none => if (locate l s.elements).1.isSome then none else some (.ofLocator l) := by
  cases h : s.failures.lookup .findElement with
  | some e =>
    rw [findElement_forced h]
    rfl
  | none =>
    rw [findElement_eq h]
    cases (locate l s.elements).1 <;> rfl

/-! ## The log -/

def isFind (entry : String) : Bool := "find_element:".toList.isPrefixOf entry.toList

def findCalls (s : Session) : Nat := s.calls.countP isFind

theorem isFind_entry (o : Operation) (detail : String) :
    isFind (o.name ++ ":" ++ detail) = (o == .findElement) := by
  rw [isFind, String.toList_append, String.toList_append]
  cases o <;> rfl

theorem findCalls_logged (s : Session) (o : Operation) (detail : String) :
    (s.logged o detail).findCalls = s.findCalls + if o = .findElement then 1 else 0 := by
  simp [findCalls, logged, isFind_entry]

theorem findCalls_findElement (l : Locator) (s : Session) :
    (stateAfter (findElement l s)).findCalls = s.findCalls + 1 := by
  have hlogged : (s.logged .findElement l.display).findCalls = s.findCalls + 1 :=
    findCalls_logged s .findElement l.display
  cases h : s.failures.lookup .findElement with
  | some e =>
    rw [findElement_forced h]
    exact hlogged
  | none =>
    rw [findElement_eq h]
    cases (locate l s.elements).1 <;> exact hlogged

/-- Reading off an element leaves an entry of its own operation. -/
theorem findCalls_reading {α : Type} {o : Operation} (ho : o ≠ .findElement) (detail : String)
    (h : Handle) (f : Element → α) (s : Session) :
    (stateAfter ((do record o detail; return f (← deref h) : Call α) s)).findCalls =
      s.findCalls := by
  have hlogged : (s.logged o detail).findCalls = s.findCalls := by
    rw [findCalls_logged, if_neg ho, Nat.add_zero]
  show (stateAfter (EStateM.bind (record o detail) _ s)).findCalls = _
  rw [EStateM.bind, record_eq]
  cases s.failures.lookup o with
  | some e => exact hlogged
  | none =>
    show (stateAfter (EStateM.bind (deref h) _ (s.logged o detail))).findCalls = _
    rw [EStateM.bind, deref]
    cases ((s.logged o detail).position? h).bind fun i => (s.logged o detail).elements[i]? with
    | some r => exact hlogged
    | none => exact hlogged

end Selenese.Session
