import Selenese.Proofs.Command.Page
import Selenese.Proofs.Replay.Noted
import Selenese.Proofs.Session.Find

/-!
# Selenese.Proofs.Replay.Presence

Lines that verify that something is on the page, and lines that verify that it is not.

* `Sought` is what both lines look for: an element, or a text.
* `Sought.errorOf?_required` and `Sought.errorOf?_refused`: how each of the two fails, by the error of the
  look-up that both make.
* `Replay.Records l x ms`: the line `l` runs to its end from `x`, and records the messages `ms`.
* `Replay.verify_complementary`: one of the two lines records an error and the other none, unless the
  look-up is forced to report a missing element under a wrapper. The check that expects nothing does not look
  under wrappers, so then both record one.
-/

namespace Selenese

inductive Sought where
  | element
  | text

namespace Sought

open Selenese.Action
open Session (findElement)

def present : Sought → String
  | element => "verifyElementPresent"
  | text => "verifyTextPresent"

def absent : Sought → String
  | element => "verifyElementNotPresent"
  | text => "verifyTextNotPresent"

def required : Sought → Behaviour
  | element => .checkElementPresent
  | text => .checkTextPresent false

def refused : Sought → Behaviour
  | element => .checkElementNotPresent
  | text => .checkTextNotPresent

/-- Where a decoded target is looked for. -/
def locator : Sought → String → Locator
  | element, t => .resolve t
  | text, t => .containingText t

def presentLine (k : Sought) (target value : String) : Line := ⟨k.present, target, value⟩

def absentLine (k : Sought) (target value : String) : Line := ⟨k.absent, target, value⟩

theorem lookup?_presentLine (k : Sought) (target value : String) :
    Command.lookup? (k.presentLine target value).command = some k.required := by
  show Command.lookup? k.present = _
  cases k with
  | element => exact Command.lookup?_of_isOneOf (by decide +kernel) ⟨_, List.mem_singleton_self _, rfl⟩
  | text => exact Command.lookup?_of_isOneOf (by decide +kernel) ⟨_, List.mem_singleton_self _, rfl⟩

theorem lookup?_absentLine (k : Sought) (target value : String) :
    Command.lookup? (k.absentLine target value).command = some k.refused := by
  show Command.lookup? k.absent = _
  cases k with
  | element => exact Command.lookup?_of_isOneOf (by decide +kernel) ⟨_, List.mem_singleton_self _, rfl⟩
  | text => exact Command.lookup?_of_isOneOf (by decide +kernel) ⟨_, List.mem_singleton_self _, rfl⟩

theorem isAssertion_presentLine (k : Sought) (target value : String) :
    (k.presentLine target value).isAssertion = false := by
  cases k <;> simp [Line.isAssertion, presentLine, present]

theorem isAssertion_absentLine (k : Sought) (target value : String) :
    (k.absentLine target value).isAssertion = false := by
  cases k <;> simp [Line.isAssertion, absentLine, absent]

/-- The error in which the look-up ends that both lines make. -/
def lookupError? (k : Sought) (x : Context) (target : String) : Option SessionError :=
  errorOf? (findElement (k.locator (x.store.decode target)) x.session)

theorem target_eq (l : Line) (x : Context) : Action.target l x = .ok (.resolve (x.store.decode l.target)) x := rfl

theorem errorOf?_required (k : Sought) (options : Options) (l : Line) (x : Context) :
    errorOf? (k.required.execute options l x) = (k.lookupError? x l.target).map .session := by
  cases k with
  | element =>
    simp only [required, Behaviour.execute, bind, EStateM.bind, find_eq, call, lookupError?, locator]
    cases findElement (.resolve (x.store.decode l.target)) x.session <;> rfl
  | text =>
    simp only [required, Behaviour.execute, Bool.false_eq_true, if_false, bind, EStateM.bind, decode, call,
      lookupError?, locator]
    cases findElement (.containingText (x.store.decode l.target)) x.session <;> rfl

/-- Only an error that says itself that nothing is there passes for absence. -/
theorem errorOf?_refused (k : Sought) (options : Options) (l : Line) (x : Context) :
    ∃ m, errorOf? (k.refused.execute options l x) = match k.lookupError? x l.target with
      | none => some (.check m)
      | some e => if e.isNotFound then none else some (.session e) := by
  cases k with
  | element =>
    refine ⟨"Element " ++ l.target ++ " was expected not present but was found in the document", ?_⟩
    simp only [refused, Behaviour.execute, bind, EStateM.bind, target_eq, call, probe, lookupError?, locator]
    cases findElement (.resolve (x.store.decode l.target)) x.session with
    | ok h s => rfl
    | error e s =>
      cases he : e.isNotFound with
      | true => simp [errorOf?, he, pure, EStateM.pure]
      | false => simp [errorOf?, he]
  | text =>
    refine ⟨"Text " ++ l.target ++ " was expected not present but was found in the document", ?_⟩
    simp only [refused, Behaviour.execute, bind, EStateM.bind, decode, call, probe, lookupError?, locator]
    cases findElement (.containingText (x.store.decode l.target)) x.session with
    | ok h s => rfl
    | error e s =>
      cases he : e.isNotFound with
      | true => simp [errorOf?, he, pure, EStateM.pure]
      | false => simp [errorOf?, he]

end Sought

namespace Replay

/-- The line runs to its end and records these messages. -/
def Records (l : Line) (x : Replay) (messages : List String) : Prop :=
  ∃ y, executeLine l x = .ok () y ∧ y.verificationErrors = x.verificationErrors ++ messages

theorem Records.unique {l : Line} {x : Replay} {ms ms' : List String} (h : Records l x ms)
    (h' : Records l x ms') : ms = ms' := by
  obtain ⟨y, hy, hms⟩ := h
  obtain ⟨y', hy', hms'⟩ := h'
  cases hy.symm.trans hy'
  exact List.append_cancel_left (hms.symm.trans hms')

section

variable {l : Line} {x : Replay} {b : Behaviour} (hb : Command.lookup? l.command = some b)
  (ha : l.isAssertion = false)

include hb ha

theorem records_nothing (h : errorOf? (b.execute x.options l x.context) = none) : Records l x [] := by
  obtain ⟨_, c, hx⟩ := ok_of_errorOf? h
  exact ⟨_, (Ends.done hb hx ha).eq, (List.append_nil _).symm⟩

theorem records_noted {f : Failure} {m : String} (h : errorOf? (b.execute x.options l x.context) = some f)
    (hf : f.Noted m) : Records l x [m] := by
  obtain ⟨c, hx⟩ := error_of_errorOf? h
  obtain ⟨⟨m', n⟩, hsoft, rfl⟩ := Option.map_eq_some_iff.1 (softReason?_map_fst.2 hf)
  exact ⟨_, (Ends.soft hb hx hsoft ha).eq, rfl⟩

end

/-- Neither line is fatal, and one of them records an error and the other none. -/
def OneRecords (l l' : Line) (x : Replay) : Prop :=
  ∃ m, (Records l x [m] ∧ Records l' x []) ∨ (Records l x [] ∧ Records l' x [m])

end Replay

namespace Sought

variable {k : Sought} {x : Replay} {target : String} (value value' : String)

open Replay

theorem errorOf?_present {e : Option SessionError} (h : k.lookupError? x.context target = e) :
    errorOf? (k.required.execute x.options (k.presentLine target value) x.context) = e.map .session :=
  h ▸ k.errorOf?_required x.options (k.presentLine target value) x.context

theorem errorOf?_absent {e : Option SessionError} (h : k.lookupError? x.context target = e) :
    ∃ m, errorOf? (k.refused.execute x.options (k.absentLine target value) x.context) = match e with
      | none => some (.check m)
      | some e => if e.isNotFound then none else some (.session e) := by
  subst h
  exact k.errorOf?_refused x.options (k.absentLine target value) x.context

theorem records_of_found (h : k.lookupError? x.context target = none) :
    ∃ m, Records (k.presentLine target value) x [] ∧ Records (k.absentLine target value') x [m] := by
  obtain ⟨m, hm⟩ := errorOf?_absent value' h
  exact ⟨m, records_nothing (k.lookup?_presentLine _ _) (k.isAssertion_presentLine _ _) (errorOf?_present value h),
    records_noted (k.lookup?_absentLine _ _) (k.isAssertion_absentLine _ _) hm (.check m)⟩

theorem records_of_missing {l : String} (h : k.lookupError? x.context target = some (.noSuchElement l)) :
    ∃ m, Records (k.presentLine target value) x [m] ∧ Records (k.absentLine target value') x [] := by
  obtain ⟨m, hm⟩ := errorOf?_absent value' h
  exact ⟨_, records_noted (k.lookup?_presentLine _ _) (k.isAssertion_presentLine _ _) (errorOf?_present value h)
    (.missing l), records_nothing (k.lookup?_absentLine _ _) (k.isAssertion_absentLine _ _) hm⟩

/-- The wrapper hides from the line that nothing is there, but not from the classification of its failure. -/
theorem records_of_wrapped {c l : String}
    (h : k.lookupError? x.context target = some (.wrapped c (.noSuchElement l))) :
    ∃ m, Records (k.presentLine target value) x [m] ∧ Records (k.absentLine target value') x [m] := by
  obtain ⟨m, hm⟩ := errorOf?_absent value' h
  exact ⟨_, records_noted (k.lookup?_presentLine _ _) (k.isAssertion_presentLine _ _) (errorOf?_present value h)
    (.wrappedMissing c l), records_noted (k.lookup?_absentLine _ _) (k.isAssertion_absentLine _ _) hm (.wrappedMissing c l)⟩

theorem lookupError?_forced {e : SessionError} (h : x.session.failures.lookup .findElement = some e) :
    k.lookupError? x.context target = some e := by
  have hlookup := Session.errorOf?_findElement (k.locator (x.store.decode target)) x.session
  rw [h] at hlookup
  exact hlookup

/-- A look-up that is not forced to fail either finds something or says that nothing is there. -/
theorem lookupError?_free (h : x.session.failures.lookup .findElement = none) :
    k.lookupError? x.context target = none ∨
      ∃ l, k.lookupError? x.context target = some (.noSuchElement l) := by
  have hlookup := Session.errorOf?_findElement (k.locator (x.store.decode target)) x.session
  rw [h] at hlookup
  dsimp only at hlookup
  split at hlookup
  · exact .inl hlookup
  · exact .inr ⟨_, hlookup⟩

end Sought

namespace Replay

/-- **Lines that verify presence and absence are complementary, unless a missing element is reported under
a wrapper.** From any state of a replay in which the look-up is not forced to fail, or to report a missing
element as such, neither of the two lines is fatal and exactly one records an error. Where it is forced to
report a missing element under a wrapper, neither is fatal either, and both record the same error. -/
theorem verify_complementary (k : Sought) (x : Replay) (target value value' : String) :
    let forced := x.session.failures.lookup .findElement
    ((forced = none ∨ ∃ l, forced = some (.noSuchElement l)) →
        OneRecords (k.presentLine target value) (k.absentLine target value') x) ∧
      ∀ c l, forced = some (.wrapped c (.noSuchElement l)) →
        ∃ m, Records (k.presentLine target value) x [m] ∧ Records (k.absentLine target value') x [m] := by
  intro forced
  refine ⟨fun h => ?_, fun c l h => Sought.records_of_wrapped value value' (Sought.lookupError?_forced h)⟩
  have hlookup : k.lookupError? x.context target = none ∨
      ∃ l, k.lookupError? x.context target = some (.noSuchElement l) := by
    rcases h with h | ⟨l, h⟩
    · exact Sought.lookupError?_free h
    · exact .inr ⟨l, Sought.lookupError?_forced h⟩
  rcases hlookup with h | ⟨l, h⟩
  · obtain ⟨m, hrecords⟩ := Sought.records_of_found value value' h
    exact ⟨m, .inr hrecords⟩
  · obtain ⟨m, hrecords⟩ := Sought.records_of_missing value value' h
    exact ⟨m, .inl hrecords⟩

/-- An element that is not there yet, and a look-up that wraps its error. -/
theorem verify_complementary_missing :
    let session := Session.empty.add (.id "a") (.ofTag "p") 1
    let x := ready ⟨"shop", "en", "home"⟩ .standard session none
    let y := ready ⟨"shop", "en", "home"⟩ .standard
      (session.failOn .findElement (.wrapped "stale frame" (.noSuchElement "id=a"))) none
    let present := Sought.element.presentLine "id=a" ""
    let absent := Sought.element.absentLine "id=a" ""
    x.session.failures.lookup .findElement = none ∧ OneRecords present absent x ∧
      y.session.failures.lookup .findElement = some (.wrapped "stale frame" (.noSuchElement "id=a")) ∧
      ∃ m, Records present y [m] ∧ Records absent y [m] := by
  intro session x y present absent
  exact ⟨rfl, (verify_complementary .element x "id=a" "" "").1 (.inl rfl), rfl,
    (verify_complementary .element y "id=a" "" "").2 _ _ rfl⟩

/-- Where a missing element is reported under a wrapper, it is not true that one line records and the other
does not. -/
theorem not_oneRecords_wrapped :
    let x := ready ⟨"shop", "en", "home"⟩ .standard
      (Session.empty.failOn .findElement (.wrapped "stale frame" (.noSuchElement "id=h"))) none
    x.session.failures.lookup .findElement = some (.wrapped "stale frame" (.noSuchElement "id=h")) ∧
      ∀ k : Sought, ¬ OneRecords (k.presentLine "id=x" "") (k.absentLine "id=x" "") x := by
  intro x
  have hforced : x.session.failures.lookup .findElement =
      some (.wrapped "stale frame" (.noSuchElement "id=h")) := rfl
  refine ⟨hforced, fun k hone => ?_⟩
  have hlookup : k.lookupError? x.context "id=x" = some (.wrapped "stale frame" (.noSuchElement "id=h")) :=
    Sought.lookupError?_forced hforced
  obtain ⟨m, hpresent, habsent⟩ := Sought.records_of_wrapped "" "" hlookup
  obtain ⟨m', ⟨-, hnone⟩ | ⟨hnone, -⟩⟩ := hone
  · cases habsent.unique hnone
  · cases hpresent.unique hnone

end Replay

end Selenese
