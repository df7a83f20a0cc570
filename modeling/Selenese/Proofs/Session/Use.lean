import Selenese.Proofs.Session.Find
import Selenese.Proofs.Session.Page

/-!
# Selenese.Proofs.Session.Use

What is asked of an element by its handle.

* A `Session.Use` is one of the calls that take a handle, and `Session.Use.call` makes it.
* `Session.referent? s h`: the place that the handle `h` tells, with what is registered there.
* `Session.Use.effect`: the answer that a use gives of an element in some place, and the change that
  it makes there.
* `Session.Use.call_eq`: a use is forced to fail, or rejected for want of a referent, or it has its
  effect on the referent and on nothing else.
-/

namespace Selenese.Session

inductive Use where
  | tagName
  | text
  | attributeOf (name : String)
  | isDisplayed
  | click
  | clear
  | sendKeys (keys : String)
  | selectOption (choice : OptionChoice)
deriving DecidableEq, Repr

inductive Answer where
  | text (text : String)
  | attribute (value : Option String)
  | displayed (displayed : Bool)
  | done
deriving DecidableEq, Repr

namespace Use

def operation : Use → Operation
  | tagName => .tagName
  | text => .text
  | attributeOf _ => .attributeOf
  | isDisplayed => .isDisplayed
  | click => .click
  | clear => .clear
  | sendKeys _ => .sendKeys
  | selectOption _ => .selectOption

/-- What the log tells of a use besides its operation. -/
def detail (h : Handle) : Use → String
  | attributeOf name => h.name ++ "@" ++ name
  | sendKeys keys => h.name ++ ":" ++ keys
  | _ => h.name

def call (h : Handle) : Use → Call Answer
  | tagName => Answer.text <$> Session.tagName h
  | text => Answer.text <$> Session.text h
  | attributeOf name => Answer.attribute <$> Session.attributeOf h name
  | isDisplayed => Answer.displayed <$> Session.isDisplayed h
  | click => (fun _ => Answer.done) <$> Session.click h
  | clear => (fun _ => Answer.done) <$> Session.clear h
  | sendKeys keys => (fun _ => Answer.done) <$> Session.sendKeys h keys
  | selectOption choice => (fun _ => Answer.done) <$> Session.selectOption h choice

end Use

def referent? (s : Session) (h : Handle) : Option (Nat × Registered) :=
  (s.position? h).bind fun i => s.elements[i]?.map (i, ·)

/-- Puts an element in the place of another, under the same locator. -/
def put (s : Session) (i : Nat) (e : Element) : Session :=
  { s with elements := s.elements.modify i fun r => { r with element := e } }

/-- The use of the element `e` in the place `i`. An option that the element does not have cannot be
picked, and then nothing is changed. -/
def Use.effect (i : Nat) (e : Element) (u : Use) : Call Answer := fun s =>
  match u with
  | tagName => .ok (.text e.tag) s
  | text => .ok (.text e.text) s
  | attributeOf name => .ok (.attribute (e.attribute? name)) s
  | isDisplayed => .ok (.displayed e.displayed) s
  | click => .ok .done (s.put i e.click)
  | clear => .ok .done (s.put i e.clear)
  | sendKeys keys => .ok .done (s.put i (e.type keys))
  | selectOption choice =>
    match e.select? choice with
    | some e' => .ok .done (s.put i e')
    | none => .error (.noSuchElement choice.display) s

theorem deref_eq (h : Handle) (s : Session) :
    deref h s = match s.referent? h with
      | some p => .ok p.2.element s
      | none => .error (.stale h.name) s := by
  rw [deref, referent?]
  cases s.position? h with
  | none => rfl
  | some i =>
    dsimp only [Option.bind_some]
    cases s.elements[i]? <;> rfl

theorem store_of_referent {h : Handle} {s : Session} {p : Nat × Registered}
    (hp : s.referent? h = some p) (e : Element) : store h e s = .ok () (s.put p.1 e) := by
  obtain ⟨i, hi, hr⟩ := Option.bind_eq_some_iff.1 hp
  obtain ⟨r, -, rfl⟩ := Option.map_eq_some_iff.1 hr
  rw [store, hi]
  rfl

theorem map_eq {α β : Type} (f : α → β) (c : Call α) (s : Session) :
    (f <$> c) s = match c s with
      | .ok a t => .ok (f a) t
      | .error e t => .error e t := by
  show EStateM.map f c s = _
  rw [EStateM.map]
  cases c s <;> rfl

/-- Does what follows with the referent of a handle, unless the operation is forced to fail or there
is no referent. -/
def atReferent {α : Type} (o : Operation) (detail : String) (h : Handle)
    (next : Nat × Registered → Call α) : Call α := fun s =>
  match s.failures.lookup o with
  | some e => .error e (s.logged o detail)
  | none =>
    match s.referent? h with
    | some p => next p (s.logged o detail)
    | none => .error (.stale h.name) (s.logged o detail)

section

variable {α : Type} {o : Operation} {detail : String} {h : Handle}

theorem record_deref_eq (next : Element → Call α) (s : Session) :
    (do record o detail; next (← deref h) : Call α) s =
      atReferent o detail h (fun p => next p.2.element) s := by
  show EStateM.bind (record o detail) (fun _ => EStateM.bind (deref h) next) s = _
  rw [EStateM.bind, record_eq, atReferent]
  cases s.failures.lookup o with
  | some e => rfl
  | none =>
    dsimp only
    have hlogged : (s.logged o detail).referent? h = s.referent? h := rfl
    rw [EStateM.bind, deref_eq, hlogged]
    cases s.referent? h <;> rfl

theorem map_record_deref {f : α → Answer} (next : Element → Call α)
    {effect : Nat × Registered → Call Answer}
    (hnext : ∀ p t, referent? t h = some p → (f <$> next p.2.element) t = effect p t)
    (s : Session) :
    (f <$> (do record o detail; next (← deref h) : Call α)) s = atReferent o detail h effect s := by
  have hlogged : (s.logged o detail).referent? h = s.referent? h := rfl
  rw [map_eq, record_deref_eq, atReferent, atReferent]
  cases s.failures.lookup o with
  | some e => rfl
  | none =>
    cases hp : s.referent? h with
    | none => rfl
    | some p => exact (map_eq f _ _).symm.trans (hnext p _ (hlogged.trans hp))

/-- What changes the element that it finds stores it where it found it. -/
theorem map_store {t : Session} {p : Nat × Registered} (hp : t.referent? h = some p) (e : Element) :
    ((fun _ => Answer.done) <$> store h e) t = .ok .done (t.put p.1 e) := by
  rw [map_eq, store_of_referent hp]

theorem map_altering (change : Element → Element) (s : Session) :
    ((fun _ => Answer.done) <$> (do record o detail; store h (change (← deref h)) : Call Unit)) s =
      atReferent o detail h (fun p t => .ok .done (t.put p.1 (change p.2.element))) s :=
  map_record_deref (fun e => store h (change e)) (fun _ _ hp => map_store hp _) s

end

theorem Use.call_eq (u : Use) (h : Handle) (s : Session) :
    u.call h s = atReferent u.operation (u.detail h) h (fun p => u.effect p.1 p.2.element) s := by
  cases u with
  | tagName | text | attributeOf name | isDisplayed =>
    exact map_record_deref _ (fun _ _ _ => rfl) s
  | click => exact map_altering Element.click s
  | clear => exact map_altering Element.clear s
  | sendKeys keys => exact map_altering (Element.type · keys) s
  | selectOption choice =>
    refine map_record_deref _ (fun p t hp => ?_) s
    rw [map_eq, Use.effect]
    cases p.2.element.select? choice with
    | none => rfl
    | some e => exact (map_eq _ _ _).symm.trans (map_store hp e)

end Selenese.Session
