import Selenese.Command
import Selenese.Pattern
import Selenese.Poll
import Selenese.Script
import Selenese.Session
import Selenese.Variables

/-!
# Selenese.Command.Execute

What the commands do to a page session and to the variables.

* `Context` is what a command may read and change, `Options` what it is told about waiting.
* An `Action` changes the context and ends well or with a `Failure`; what it changed before it failed stays
  changed.
* `Behaviour.execute` is the action of a command on a line.
-/

namespace Selenese

structure Options where
  poll : Poll
  /-- Milliseconds to pause after a click. -/
  settle : Nat
  /-- The target that tells that a page is there. -/
  pageContainer : String
deriving DecidableEq, Repr

def Options.standard : Options := ⟨Poll.standard, 1000, "css=body"⟩

structure Context where
  session : Session
  baseUrl : String
  store : Variables

/-- Why a command did not end well. -/
inductive Failure where
  /-- A check did not hold. -/
  | check (message : String)
  | timeout (timeout : Timeout)
  /-- The line has a value that the command cannot use. -/
  | invalid (message : String)
  | session (error : SessionError)
deriving DecidableEq, Repr

namespace Failure

def message : Failure → String
  | check m => m
  | timeout t => t.message
  | invalid m => m
  | session e => e.message

end Failure

abbrev Action := EStateM Failure Context

namespace Action

/-- Makes a session call. -/
def call {α : Type} (c : Session.Call α) : Action α := fun x =>
  match c x.session with
  | .ok a s => .ok a { x with session := s }
  | .error e s => .error (.session e) { x with session := s }

def decode (raw : String) : Action String := fun x => .ok (x.store.decode raw) x

/-- The locator of the target of a line. -/
def target (l : Line) : Action Locator := return .resolve (← decode l.target)

def find (l : Line) : Action Handle := do call (Session.findElement (← target l))

/-- Finds an element, where a missing element is no error. -/
def probe (l : Locator) : Session.Call (Option Handle) := fun s =>
  match Session.findElement l s with
  | .ok h s => .ok (some h) s
  | .error e s => if e.isNotFound then .ok none s else .error e s

/-- Waits until a probe of the session answers yes. -/
def await (options : Options) (probe : Session.Call Bool) : Action Unit := fun x =>
  match Poll.run options.poll.attempts probe x.session with
  | .ok _ s => .ok () { x with session := s }
  | .error t s => .error (.timeout t) { x with session := s }

def elementIs (l : Locator) (present : Bool) : Session.Call Bool :=
  return (← probe l).isSome == present

/-- An element is there and has a text, or is not there. Where it should not be there, its text is not asked for. -/
def textIs (l : Locator) (present : Bool) : Session.Call Bool := do
  match ← probe l, present with
  | some h, true => return (← Session.text h) ≠ ""
  | some _, false => return false
  | none, _ => return !present

/-- A missing element is not visible. -/
def visibilityIs (l : Locator) (visible : Bool) : Session.Call Bool := do
  match ← probe l with
  | some h => return (← Session.isDisplayed h) == visible
  | none => return !visible

def awaitPage (options : Options) : Action Unit :=
  await options (elementIs (.resolve options.pageContainer) true)

def setVariable (name value : String) : Action Unit :=
  modify fun x => { x with store := x.store.set name value }

def unsetVariable (name : String) : Action Unit :=
  modify fun x => { x with store := x.store.unset name }

end Action

/-- Elements whose value stands for their text. -/
def isInput (tag : String) : Bool :=
  Text.sameIgnoringCase tag "input" || Text.sameIgnoringCase tag "textarea"

/-- A failed match is a failed check, a pattern that cannot be read an unusable value. -/
def Failure.ofMatch : Pattern.Mismatch → Failure
  | m@(.different ..) => .check m.message
  | m@(.invalid ..) => .invalid m.message

namespace Behaviour

open Selenese.Action Selenese.Session

def execute (options : Options) (l : Line) : Behaviour → Action Unit
  | .open => do
    let url := (← get).baseUrl ++ (← decode l.target)
    call (navigate url)
  | .checkTitle => do
    let expected ← decode l.target
    let actual ← call readTitle
    if actual ≠ expected then
      throw (.check ("expected title '" ++ expected ++ "' but was '" ++ actual ++ "'"))
  | .checkValueOrText => do
    let h ← find l
    let tag ← call (tagName h)
    let actual ← if isInput tag then (·.getD "") <$> call (attributeOf h "value") else call (text h)
    match Pattern.check actual (← decode l.value) with
    | .ok () => return
    | .error m => throw (.ofMatch m)
  | .checkTextPresent store => do
    let probed := Locator.containingText (← decode l.target)
    if store then
      let found ← call (probe probed)
      setVariable l.value (if found.isSome then "true" else "false")
    else
      let _ ← call (findElement probed)
  | .checkTextNotPresent => do
    let found ← call (probe (.containingText (← decode l.target)))
    if found.isSome then
      throw (.check ("Text " ++ l.target ++ " was expected not present but was found in the document"))
  | .checkElementVisible => do
    let displayed ← call (isDisplayed (← find l))
    if !displayed then
      throw (.check ("Element " ++ l.target ++ " is present but not visible"))
  | .checkElementPresent => do
    let _ ← find l
  | .checkElementNotPresent => do
    let found ← call (probe (← target l))
    if found.isSome then
      throw (.check ("Element " ++ l.target ++ " was expected not present but was found in the document"))
  | .click => do
    call (Session.click (← find l))
    awaitPage options
  | .clear => do
    call (Session.clear (← find l))
  | .type => do
    let keys ← decode l.value
    call (sendKeys (← find l) keys)
  | .waitForElement present => do
    await options (elementIs (← target l) present)
  | .waitForText present => do
    await options (textIs (← target l) present)
  | .waitForVisibility visible => do
    await options (visibilityIs (← target l) visible)
  | .select wait => do
    let h ← find l
    let raw ← decode l.value
    match OptionChoice.parse raw with
    | .error e => throw (.invalid ("bad option index in '" ++ raw ++ "': " ++ e.message))
    | .ok choice => call (selectOption h choice)
    if wait then awaitPage options
  | .storeText => do
    let text ← call (Session.text (← find l))
    setVariable l.value text
  | .storeEval => do
    if !(← get).session.supportsScripts then
      throw (.session .scriptsUnavailable)
    let code := (← get).store.expand l.target
    match ← call (executeScript code) with
    | some result => setVariable l.value result
    | none => unsetVariable l.value
  | .deleteCookie => do
    let name ← decode l.target
    let removal : Call Unit := do
      match ← cookieNamed name with
      | some c => Session.deleteCookie c
      | none => return
    fun x =>
      match removal x.session with
      | .ok _ s | .error _ s => .ok () { x with session := s }

end Behaviour

end Selenese
