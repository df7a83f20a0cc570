import Selenese.Command.Execute
import Selenese.Proofs.Session.Calls

/-!
# Selenese.Proofs.Command.Execute

What a command can do, whatever its line and the session.

* `Behaviour.execute_within`: a command changes the session by calls only, leaves the base URL
  alone, changes the variables only if it is one that stores, and gives up waiting only if it is one
  that polls.
* `Behaviour.looking_within`: a command that does not act on the page makes no call but those that
  read.
* `Behaviour.execute_spares`: a command that fails has only read, unless it gave up waiting.
-/

namespace Selenese

namespace Behaviour

/-- Behaviours that wait for something. -/
def polls : Behaviour → Bool
  | click | waitForElement _ | waitForText _ | waitForVisibility _ => true
  | select wait => wait
  | _ => false

/-- Behaviours that write a variable. -/
def stores : Behaviour → Bool
  | storeText | storeEval => true
  | checkTextPresent store => store
  | _ => false

/-- Behaviours that change the page. -/
def acts : Behaviour → Bool
  | «open» | click | clear | type | select _ | deleteCookie => true
  | _ => false

end Behaviour

theorem Poll.attempt_within {σ ε : Type} {R : σ → σ → Prop} {E : ε → Prop} (hR : Stepwise R)
    (limit : Nat) {probe : EStateM ε σ Bool} (hp : Within R E probe) (left : Nat) :
    Within R (fun _ => True) (Poll.attempt limit probe left) := by
  induction left with
  | zero => exact fun s => ⟨hR.refl s, trivial⟩
  | succ left ih =>
    intro s
    unfold attempt
    cases h : probe s with
    | ok found s' =>
      have hs := hp.ok h
      cases found with
      | true => exact hs
      | false =>
        have hrest := ih s'
        dsimp only
        cases h' : attempt limit probe left s' with
        | ok n t => exact hR.trans hs (ih.ok h')
        | error e t => exact ⟨hR.trans hs (ih.error h').1, trivial⟩
    | error e s' =>
      have hs := (hp.error h).1
      dsimp only
      cases h' : attempt limit probe left s' with
      | ok n t => exact hR.trans hs (ih.ok h')
      | error e t => exact ⟨hR.trans hs (ih.error h').1, trivial⟩

/-- What a behaviour may change. -/
structure Moves (S : Session → Session → Prop) (b : Behaviour) (x y : Context) : Prop where
  session : S x.session y.session
  baseUrl : y.baseUrl = x.baseUrl
  store : b.stores = false → y.store = x.store

/-- How a behaviour may fail: a wait gives up only where there is one. -/
def FailsAs (b : Behaviour) (f : Failure) : Prop := b.polls = false → ∀ t, f ≠ .timeout t

def NotTimeout (f : Failure) : Prop := ∀ t, f ≠ .timeout t

namespace Action

theorem call_ok {α : Type} {c : Session.Call α} {x y : Context} {a : α} (h : call c x = .ok a y) :
    ∃ s, c x.session = .ok a s ∧ y = { x with session := s } := by
  unfold call at h
  cases hc : c x.session with
  | ok a' s =>
    rw [hc] at h
    cases h
    exact ⟨s, rfl, rfl⟩
  | error e s =>
    rw [hc] at h
    cases h

theorem call_error {α : Type} {c : Session.Call α} {x y : Context} {f : Failure}
    (h : call c x = .error f y) :
    ∃ e s, c x.session = .error e s ∧ f = .session e ∧ y = { x with session := s } := by
  unfold call at h
  cases hc : c x.session with
  | ok a s =>
    rw [hc] at h
    cases h
  | error e s =>
    rw [hc] at h
    cases h
    exact ⟨e, s, rfl, rfl, rfl⟩

variable {S : Session → Session → Prop} (hS : Session.Looks S) {b : Behaviour} {α : Type}

theorem call_within {c : Session.Call α} (hc : Within S anyError c) :
    Within (Moves S b) (FailsAs b) (call c) := by
  intro x
  unfold call
  cases h : c x.session with
  | ok a s => exact ⟨hc.ok h, rfl, fun _ => rfl⟩
  | error e s => exact ⟨⟨(hc.error h).1, rfl, fun _ => rfl⟩, fun _ _ hf => by cases hf⟩

include hS

theorem moves_stepwise : Stepwise (Moves S b) where
  refl _ := ⟨hS.refl _, rfl, fun _ => rfl⟩
  trans h h' :=
    ⟨hS.trans h.session h'.session, h'.baseUrl.trans h.baseUrl,
      fun hb => (h'.store hb).trans (h.store hb)⟩

theorem decode_within (raw : String) : Within (Moves S b) (FailsAs b) (decode raw) :=
  fun x => (moves_stepwise hS).refl x

theorem target_within (l : Line) : Within (Moves S b) (FailsAs b) (target l) :=
  .bind (moves_stepwise hS) (decode_within hS _) fun _ => .pure (moves_stepwise hS) _

theorem find_within (l : Line) : Within (Moves S b) (FailsAs b) (find l) :=
  .bind (moves_stepwise hS) (target_within hS l) fun _ =>
    call_within (Session.findElement_within hS _)

theorem probe_within (l : Locator) : Within S anyError (probe l) := by
  intro s
  have h := Session.findElement_within hS l
  unfold probe
  cases hf : Session.findElement l s with
  | ok a s' => exact h.ok hf
  | error e s' =>
    by_cases he : e.isNotFound = true
    · simp only [he, if_true]
      exact (h.error hf).1
    · simp only [he]
      exact h.error hf

theorem elementIs_within (l : Locator) (present : Bool) : Within S anyError (elementIs l present) :=
  .bind hS.toStepwise (probe_within hS l) fun _ => .pure hS.toStepwise _

theorem textIs_within (l : Locator) (present : Bool) : Within S anyError (textIs l present) := by
  refine .bind hS.toStepwise (probe_within hS l) fun found => ?_
  cases found with
  | none => exact .pure hS.toStepwise _
  | some h =>
    cases present with
    | true => exact .bind hS.toStepwise (Session.text_within hS h) fun _ => .pure hS.toStepwise _
    | false => exact .pure hS.toStepwise _

theorem visibilityIs_within (l : Locator) (visible : Bool) :
    Within S anyError (visibilityIs l visible) := by
  refine .bind hS.toStepwise (probe_within hS l) fun found => ?_
  cases found with
  | none => exact .pure hS.toStepwise _
  | some h =>
    exact .bind hS.toStepwise (Session.isDisplayed_within hS h) fun _ => .pure hS.toStepwise _

theorem await_within (hb : b.polls = true) (options : Options) {probe : Session.Call Bool}
    (hp : Within S anyError probe) : Within (Moves S b) (FailsAs b) (await options probe) := by
  intro x
  have h := Poll.attempt_within hS.toStepwise options.poll.attempts hp options.poll.attempts
  unfold await Poll.run
  cases hr : Poll.attempt options.poll.attempts probe options.poll.attempts x.session with
  | ok n s => exact ⟨h.ok hr, rfl, fun _ => rfl⟩
  | error t s => exact ⟨⟨(h.error hr).1, rfl, fun _ => rfl⟩, fun hf => by rw [hb] at hf; cases hf⟩

theorem awaitPage_within (hb : b.polls = true) (options : Options) :
    Within (Moves S b) (FailsAs b) (awaitPage options) :=
  await_within hS hb options (elementIs_within hS _ _)

theorem setVariable_within (hb : b.stores = true) (name value : String) :
    Within (Moves S b) (FailsAs b) (setVariable name value) :=
  .modify fun _ => ⟨hS.refl _, rfl, fun h => by rw [hb] at h; cases h⟩

theorem unsetVariable_within (hb : b.stores = true) (name : String) :
    Within (Moves S b) (FailsAs b) (unsetVariable name) :=
  .modify fun _ => ⟨hS.refl _, rfl, fun h => by rw [hb] at h; cases h⟩

theorem fail_within {f : Failure} (hf : ∀ t, f ≠ .timeout t) :
    Within (Moves S b) (FailsAs b) (throw f : Action α) :=
  .throw (moves_stepwise hS) fun _ => hf

end Action

theorem Failure.ofMatch_ne_timeout (m : Pattern.Mismatch) (t : Timeout) :
    Failure.ofMatch m ≠ .timeout t := by
  cases m <;> intro h <;> cases h

namespace Behaviour

open Selenese.Action Session

/-- Comparing a text with the pattern that a line expects. -/
theorem compare_within {S : Session → Session → Prop} (hS : Looks S) {b : Behaviour}
    (actual raw : String) :
    Within (Moves S b) (FailsAs b) (do
      match Pattern.check actual (← decode raw) with
      | .ok () => return
      | .error m => throw (.ofMatch m)) := by
  refine .bind (moves_stepwise hS) (decode_within hS _) fun expected => ?_
  cases Pattern.check actual expected with
  | ok _ => exact .pure (moves_stepwise hS) _
  | error m => exact fail_within hS (Failure.ofMatch_ne_timeout m)

/-- One case for each behaviour, along the calls it makes. -/
theorem looking_within {S : Session → Session → Prop} (hS : Looks S) (options : Options)
    (l : Line) {b : Behaviour} (hb : b.acts = false) :
    Within (Moves S b) (FailsAs b) (b.execute options l) := by
  have hM {b : Behaviour} : Stepwise (Moves S b) := moves_stepwise hS
  have hget {b : Behaviour} : Within (Moves S b) (FailsAs b) (get : Action Context) := .get hM
  have hdone {b : Behaviour} {α : Type} (a : α) :
    Within (Moves S b) (FailsAs b) (pure a : Action α) := .pure hM a
  cases b with
  | checkTitle =>
    refine .bind hM (decode_within hS _) fun expected =>
      .bind hM (call_within (readTitle_within hS)) fun actual => ?_
    split
    · exact fail_within hS fun t h => by cases h
    · exact hdone _
  | checkValueOrText =>
    refine .bind hM (find_within hS l) fun h =>
      .bind hM (call_within (tagName_within hS h)) fun tag => ?_
    dsimp only
    split
    · exact .bind hM (.map hM _ (call_within (attributeOf_within hS h _)))
        fun actual => compare_within hS actual l.value
    · exact .bind hM (call_within (text_within hS h)) fun actual => compare_within hS actual l.value
  | checkTextPresent store =>
    refine .bind hM (decode_within hS _) fun t => ?_
    cases store with
    | true =>
      exact .bind hM (call_within (probe_within hS _)) fun _ => setVariable_within hS rfl _ _
    | false => exact .bind hM (call_within (findElement_within hS _)) fun _ => hdone _
  | checkTextNotPresent =>
    refine .bind hM (decode_within hS _) fun t =>
      .bind hM (call_within (probe_within hS _)) fun found => ?_
    split
    · exact fail_within hS fun t h => by cases h
    · exact hdone _
  | checkElementVisible =>
    refine .bind hM (find_within hS l) fun h =>
      .bind hM (call_within (isDisplayed_within hS h)) fun displayed => ?_
    split
    · exact fail_within hS fun t h => by cases h
    · exact hdone _
  | checkElementPresent => exact .bind hM (find_within hS l) fun _ => hdone _
  | checkElementNotPresent =>
    refine .bind hM (target_within hS l) fun t =>
      .bind hM (call_within (probe_within hS t)) fun found => ?_
    split
    · exact fail_within hS fun t h => by cases h
    · exact hdone _
  | waitForElement present =>
    exact .bind hM (target_within hS l) fun t =>
      await_within hS rfl options (elementIs_within hS t present)
  | waitForText present =>
    exact .bind hM (target_within hS l) fun t =>
      await_within hS rfl options (textIs_within hS t present)
  | waitForVisibility visible =>
    exact .bind hM (target_within hS l) fun t =>
      await_within hS rfl options (visibilityIs_within hS t visible)
  | storeText =>
    exact .bind hM (find_within hS l) fun h => .bind hM (call_within (text_within hS h)) fun t =>
      setVariable_within hS rfl _ t
  | storeEval =>
    refine .bind hM hget fun x => ?_
    split
    · exact fail_within hS fun t h => by cases h
    · refine .bind hM hget fun x =>
        .bind hM (call_within (executeScript_within hS _)) fun result => ?_
      cases result with
      | some v => exact setVariable_within hS rfl _ v
      | none => exact unsetVariable_within hS rfl _
  | «open» | click | clear | type | select | deleteCookie => cases hb

/-- Deleting a cookie that may be missing. -/
theorem removal_within {S : Session → Session → Prop} (hS : Changes S) (name : String) :
    Within S anyError (do
      match ← cookieNamed name with
      | some c => Session.deleteCookie c
      | none => return) := by
  refine .bind hS.toStepwise (cookieNamed_within hS.toLooks name) fun c => ?_
  cases c with
  | some c => exact deleteCookie_within hS c
  | none => exact .pure hS.toStepwise _

theorem execute_within {S : Session → Session → Prop} (hS : Changes S) (options : Options)
    (l : Line) (b : Behaviour) :
    Within (Moves S b) (FailsAs b) (b.execute options l) := by
  have hL : Looks S := hS.toLooks
  have hM {b : Behaviour} : Stepwise (Moves S b) := moves_stepwise hL
  cases b with
  | «open» =>
    exact .bind hM (.get hM) fun _ => .bind hM (decode_within hL _) fun _ =>
      call_within (navigate_within hS _)
  | click =>
    exact .bind hM (find_within hL l) fun h => .bind hM (call_within (click_within hS h)) fun _ =>
      awaitPage_within hL rfl options
  | clear => exact .bind hM (find_within hL l) fun h => call_within (clear_within hS h)
  | type =>
    exact .bind hM (decode_within hL _) fun keys => .bind hM (find_within hL l) fun h =>
      call_within (sendKeys_within hS h keys)
  | select wait =>
    refine .bind hM (find_within hL l) fun h => .bind hM (decode_within hL _) fun raw => ?_
    cases OptionChoice.parse raw with
    | error e => exact fail_within hL fun t h => by cases h
    | ok choice =>
      refine .bind hM (call_within (selectOption_within hS h choice)) fun _ => ?_
      cases wait with
      | true => exact awaitPage_within hL rfl options
      | false => exact .pure hM _
  | deleteCookie =>
    refine .bind hM (decode_within hL _) fun name => ?_
    intro x
    dsimp only
    split
    · rename_i heq
      split at heq
      · rename_i h
        cases heq
        exact ⟨(removal_within hS name).ok h, rfl, fun _ => rfl⟩
      · rename_i h
        cases heq
        exact ⟨((removal_within hS name).error h).1, rfl, fun _ => rfl⟩
    · rename_i heq
      split at heq <;> cases heq
  | _ => exact looking_within hL options l rfl

theorem execute_deleteCookie (options : Options) (l : Line) (x : Context) :
    ∃ s, deleteCookie.execute options l x = .ok () { x with session := s } := by
  simp only [execute, bind, EStateM.bind, decode]
  split <;> exact ⟨_, rfl⟩

end Behaviour

end Selenese
