import Selenese.Proofs.Command.Page
import Selenese.Proofs.Poll
import Selenese.Proofs.Session.Find

/-!
# Selenese.Proofs.Command.Wait

Commands that wait for an element.

* A `Condition` is what a line can wait for. `Condition.Observed l c s`: an attempt from the session
  `s` observes it of the element under the locator `l`; `Condition.attempt l c s` is the session
  after the attempt, and `Condition.attempts` that after several.
* `Command.waits` are the names of the commands. `Command.lookup?_waits`: each of them awaits its
  condition.
* `Behaviour.execute_observed` and `Behaviour.execute_unobserved`: a wait ends well with the first
  attempt that observes its condition, or gives up when the attempts are used up.
-/

namespace Selenese

open Session (Call findElement isDisplayed)

/-! ## Conditions -/

inductive Condition where
  | present
  | absent
  /-- The element is there, and its text is not empty. -/
  | filled
  | visible
  /-- The element is not there, or it is not displayed. -/
  | hidden
deriving DecidableEq

namespace Condition

/-- The condition holds of an element that was found. -/
def HoldsOf (h : Handle) (s : Session) : Condition → Prop
  | present => True
  | absent => False
  | filled => ∃ text t, Session.text h s = .ok text t ∧ text ≠ ""
  | visible => ∃ t, isDisplayed h s = .ok true t
  | hidden => ∃ t, isDisplayed h s = .ok false t

/-- A missing element is absent and hidden. Any other error observes nothing, also one that wraps the
error of a missing element. -/
def Observed (l : Locator) (c : Condition) (s : Session) : Prop :=
  match findElement l s with
  | .ok h t => c.HoldsOf h t
  | .error (.noSuchElement _) _ => c = absent ∨ c = hidden
  | .error _ _ => False

instance (h : Handle) (s : Session) (c : Condition) : Decidable (c.HoldsOf h s) :=
  match c with
  | present => isTrue trivial
  | absent => isFalse id
  | filled =>
    match htext : Session.text h s with
    | .ok text _ => decidable_of_iff (text ≠ "") (by simp [HoldsOf, htext])
    | .error _ _ => isFalse (by simp [HoldsOf, htext])
  | visible =>
    match hseen : isDisplayed h s with
    | .ok seen _ => decidable_of_iff (seen = true) (by simp [HoldsOf, hseen])
    | .error _ _ => isFalse (by simp [HoldsOf, hseen])
  | hidden =>
    match hseen : isDisplayed h s with
    | .ok seen _ => decidable_of_iff (seen = false) (by simp [HoldsOf, hseen])
    | .error _ _ => isFalse (by simp [HoldsOf, hseen])

instance (l : Locator) (c : Condition) (s : Session) : Decidable (c.Observed l s) :=
  match hfind : findElement l s with
  | .ok h t => decidable_of_iff (c.HoldsOf h t) (by simp [Observed, hfind])
  | .error (.noSuchElement _) _ =>
    decidable_of_iff (c = absent ∨ c = hidden) (by simp [Observed, hfind])
  | .error (.assertionFailed _) _ | .error (.unsupported _) _ | .error (.backend _) _
  | .error (.wrapped _ _) _ => isFalse (by simp [Observed, hfind])

/-- What an attempt asks of an element that was found. -/
def asked (h : Handle) (s : Session) : Condition → Session
  | present | absent => s
  | filled => stateAfter (Session.text h s)
  | visible | hidden => stateAfter (isDisplayed h s)

def attempt (l : Locator) (c : Condition) (s : Session) : Session :=
  match findElement l s with
  | .ok h t => c.asked h t
  | .error _ t => t

def attempts (l : Locator) (c : Condition) : Nat → Session → Session
  | 0, s => s
  | n + 1, s => attempts l c n (c.attempt l s)

theorem findCalls_asked (h : Handle) (c : Condition) (s : Session) :
    (c.asked h s).findCalls = s.findCalls := by
  cases c with
  | present | absent => rfl
  | filled => exact Session.findCalls_reading (by decide) _ h _ s
  | visible | hidden => exact Session.findCalls_reading (by decide) _ h _ s

theorem findCalls_attempt (l : Locator) (c : Condition) (s : Session) :
    (c.attempt l s).findCalls = s.findCalls + 1 := by
  have hfind := Session.findCalls_findElement l s
  rw [attempt]
  cases h : findElement l s with
  | ok handle t =>
    rw [h] at hfind
    exact (findCalls_asked handle c t).trans hfind
  | error e t =>
    rw [h] at hfind
    exact hfind

/-- Every attempt looks the element up once. -/
theorem findCalls_attempts (l : Locator) (c : Condition) (n : Nat) (s : Session) :
    (c.attempts l n s).findCalls = s.findCalls + n := by
  induction n generalizing s with
  | zero => rfl
  | succ n ih =>
    rw [attempts, ih, findCalls_attempt]
    omega

/-! ## Probes -/

/-- A probe that makes the attempts of a condition and answers whether it is observed. -/
structure Probes (l : Locator) (c : Condition) (probe : Call Bool) : Prop where
  leaves : ∀ s, stateAfter (probe s) = c.attempt l s
  answers : ∀ s, Poll.Succeeds probe s ↔ c.Observed l s

theorem Probes.after_eq {l : Locator} {c : Condition} {probe : Call Bool} (h : Probes l c probe)
    (n : Nat) (s : Session) : Poll.after probe n s = c.attempts l n s := by
  induction n generalizing s with
  | zero => rfl
  | succ n ih => rw [Poll.after, attempts, h.leaves, ih]

/-- Asks one thing of an element that is found, and answers another if it is missing. -/
def probing (l : Locator) (found : Handle → Call Bool) (missing : Bool) : Call Bool := do
  match ← Action.probe l with
  | some h => found h
  | none => return missing

theorem probing_eq (l : Locator) (found : Handle → Call Bool) (missing : Bool) (s : Session) :
    probing l found missing s =
      match findElement l s with
      | .ok h t => found h t
      | .error (.noSuchElement _) t => .ok missing t
      | .error e t => .error e t := by
  show EStateM.bind (Action.probe l) _ s = _
  rw [EStateM.bind, Action.probe]
  cases findElement l s with
  | ok h t => rfl
  | error e t => cases e <;> rfl

theorem Probes.of_probing {l : Locator} {c : Condition} {found : Handle → Call Bool} {missing : Bool}
    (hleaves : ∀ h s, stateAfter (found h s) = c.asked h s)
    (hfound : ∀ h s, Poll.Succeeds (found h) s ↔ c.HoldsOf h s)
    (hmissing : missing = true ↔ c = absent ∨ c = hidden) : Probes l c (probing l found missing) := by
  constructor
  · intro s
    rw [probing_eq, attempt]
    cases findElement l s with
    | ok h t => exact hleaves h t
    | error e t => cases e <;> rfl
  · intro s
    rw [Poll.Succeeds, probing_eq, Observed]
    cases findElement l s with
    | ok h t => exact hfound h t
    | error e t =>
      cases e with
      | noSuchElement _ => simp [hmissing]
      | _ => simp

/-- A question to an element, and what the answer should be. -/
theorem succeeds_asking {α : Type} (ask : Call α) (right : α → Bool) (s : Session) :
    Poll.Succeeds (do return right (← ask)) s ↔ ∃ a t, ask s = .ok a t ∧ right a = true := by
  show (∃ t, EStateM.bind ask _ s = .ok true t) ↔ _
  rw [EStateM.bind]
  cases ask s with
  | ok a t => simp [pure, EStateM.pure]
  | error e t => simp

theorem stateAfter_asking {α : Type} (ask : Call α) (right : α → Bool) (s : Session) :
    stateAfter ((do return right (← ask) : Call Bool) s) = stateAfter (ask s) := by
  show stateAfter (EStateM.bind ask _ s) = _
  rw [EStateM.bind]
  cases ask s <;> rfl

/-- What looks for the element first is told by what it does in either case. -/
theorem eq_probing {l : Locator} {next : Option Handle → Call Bool} {found : Handle → Call Bool}
    {missing : Bool} (hsome : ∀ h, next (some h) = found h) (hnone : next none = pure missing) :
    (do next (← Action.probe l)) = probing l found missing := by
  refine congrArg (Action.probe l >>= ·) (funext fun handle => ?_)
  cases handle with
  | some h => exact hsome h
  | none => exact hnone

theorem elementIs_eq (l : Locator) (present : Bool) :
    Action.elementIs l present = probing l (fun _ => return present) (!present) := by
  cases present <;> exact eq_probing (fun _ => rfl) rfl

theorem textIs_true_eq (l : Locator) :
    Action.textIs l true = probing l (fun h => return decide ((← Session.text h) ≠ "")) false :=
  eq_probing (fun _ => rfl) rfl

/-- A text that should not be there is waited for like an element that should not be there. -/
theorem textIs_false_eq (l : Locator) :
    Action.textIs l false = probing l (fun _ => return false) true :=
  eq_probing (fun _ => rfl) rfl

theorem visibilityIs_eq (l : Locator) (visible : Bool) :
    Action.visibilityIs l visible =
      probing l (fun h => return (← isDisplayed h) == visible) (!visible) :=
  eq_probing (fun _ => rfl) rfl

theorem probes_present (l : Locator) : Probes l present (probing l (fun _ => return true) false) :=
  .of_probing (fun _ _ => rfl) (fun _ s => ⟨fun _ => trivial, fun _ => ⟨s, rfl⟩⟩) (by decide)

theorem probes_absent (l : Locator) : Probes l absent (probing l (fun _ => return false) true) := by
  refine .of_probing (fun _ _ => rfl) (fun _ _ => ⟨?_, False.elim⟩) (by decide)
  rintro ⟨t, ht⟩
  cases ht

theorem probes_filled (l : Locator) :
    Probes l filled (probing l (fun h => return decide ((← Session.text h) ≠ "")) false) := by
  refine .of_probing (fun h s => stateAfter_asking _ _ s) (fun h s => ?_) (by decide)
  rw [succeeds_asking]
  simp [HoldsOf]

theorem probes_visible (l : Locator) :
    Probes l visible (probing l (fun h => return (← isDisplayed h) == true) false) := by
  refine .of_probing (fun h s => stateAfter_asking _ _ s) (fun h s => ?_) (by decide)
  rw [succeeds_asking]
  simp [HoldsOf]

theorem probes_hidden (l : Locator) :
    Probes l hidden (probing l (fun h => return (← isDisplayed h) == false) true) := by
  refine .of_probing (fun h s => stateAfter_asking _ _ s) (fun h s => ?_) (by decide)
  rw [succeeds_asking]
  simp [HoldsOf]

end Condition

/-! ## Commands -/

/-- The condition that a behaviour waits for, if it does nothing else. -/
def Behaviour.awaits : Behaviour → Option Condition
  | waitForElement true => some .present
  | waitForElement false | waitForText false => some .absent
  | waitForText true => some .filled
  | waitForVisibility true => some .visible
  | waitForVisibility false => some .hidden
  | _ => none

namespace Command

def waits : List (String × Condition) := [
  ("waitForElementPresent", .present),
  ("waitForElementNotPresent", .absent),
  ("waitForText", .filled),
  ("waitForTextPresent", .filled),
  ("waitForTextNotPresent", .absent),
  ("waitForElementVisible", .visible),
  ("waitForElementNotVisible", .hidden)]

/-- The command waits for the condition, in any letter case. -/
def WaitsFor (c : Condition) (command : String) : Prop := ∃ p ∈ waits, p.2 = c ∧ IsOneOf [p.1] command

theorem lookup?_waits {c : Condition} {command : String} (h : WaitsFor c command) :
    ∃ b, lookup? command = some b ∧ b.awaits = some c := by
  have htable : ∀ p ∈ waits, (p.1.toList.all fun c => decide (Text.IsAscii c)) = true ∧
      (((spelled.find? fun e => e.1 = Text.foldAscii p.1).map Prod.snd).bind Behaviour.awaits) =
        some p.2 := by
    decide +kernel
  obtain ⟨p, hp, rfl, hname⟩ := h
  obtain ⟨hascii, hfound⟩ := htable p hp
  obtain ⟨b, hb, hawaits⟩ := Option.bind_eq_some_iff.1 hfound
  refine ⟨b, lookup?_of_isOneOf (fun name hn => ?_) hname, hawaits⟩
  rw [List.mem_singleton.1 hn]
  exact ⟨hascii, hb⟩

theorem lookup?_deleteCookie {command : String} (h : IsOneOf ["deleteCookie"] command) :
    lookup? command = some .deleteCookie := lookup?_of_isOneOf (by decide +kernel) h

end Command

namespace Behaviour

open Condition Selenese.Action

/-- A behaviour that only waits makes a probe of its target. -/
theorem execute_awaits {b : Behaviour} {c : Condition} (h : b.awaits = some c) (options : Options)
    (l : Line) (x : Context) :
    ∃ probe, Probes (.resolve (x.store.decode l.target)) c probe ∧
      b.execute options l x = await options probe x := by
  cases b with
  | waitForElement present =>
    refine ⟨_, ?_, rfl⟩
    rw [elementIs_eq]
    cases present <;> cases h
    · exact probes_absent _
    · exact probes_present _
  | waitForText present =>
    refine ⟨_, ?_, rfl⟩
    cases present <;> cases h
    · rw [textIs_false_eq]
      exact probes_absent _
    · rw [textIs_true_eq]
      exact probes_filled _
  | waitForVisibility visible =>
    refine ⟨_, ?_, rfl⟩
    rw [visibilityIs_eq]
    cases visible <;> cases h
    · exact probes_hidden _
    · exact probes_visible _
  | _ => cases h

section

variable {b : Behaviour} {c : Condition} (h : b.awaits = some c) (options : Options) (l : Line)
  (x : Context)

include h

theorem execute_observed {k : Nat} (hk : k < options.poll.attempts)
    (hyes : c.Observed (.resolve (x.store.decode l.target))
      (c.attempts (.resolve (x.store.decode l.target)) k x.session))
    (hno : ∀ j < k, ¬ c.Observed (.resolve (x.store.decode l.target))
      (c.attempts (.resolve (x.store.decode l.target)) j x.session)) :
    b.execute options l x = .ok ()
      { x with session := c.attempts (.resolve (x.store.decode l.target)) (k + 1) x.session } := by
  obtain ⟨probe, hprobe, hx⟩ := execute_awaits h options l x
  rw [← hprobe.answers, ← hprobe.after_eq] at hyes
  have hrun := Poll.run_of_succeeds hk hyes fun j hj => by
    rw [hprobe.answers, hprobe.after_eq]
    exact hno j hj
  rw [hx, await, hrun, hprobe.after_eq]

theorem execute_unobserved
    (hno : ∀ j < options.poll.attempts, ¬ c.Observed (.resolve (x.store.decode l.target))
      (c.attempts (.resolve (x.store.decode l.target)) j x.session)) :
    b.execute options l x = .error (.timeout ⟨options.poll.attempts⟩)
      { x with
        session := c.attempts (.resolve (x.store.decode l.target)) options.poll.attempts x.session } := by
  obtain ⟨probe, hprobe, hx⟩ := execute_awaits h options l x
  have hfails : ∀ j < options.poll.attempts, ¬ Poll.Succeeds probe (Poll.after probe j x.session) := by
    intro j hj
    rw [hprobe.answers, hprobe.after_eq]
    exact hno j hj
  rw [hx, await, Poll.run_of_fails hfails, hprobe.after_eq]

end

end Behaviour

end Selenese
