import Selenese.Locator.TextProbe
import Selenese.Session.Element
import Selenese.Session.Error

/-!
# Selenese.Session

A page session held in memory, and the calls that a replay makes on it.

* `Session` is the state of the page and the log of calls.
* A `Session.Call` changes the state and answers a value or a `SessionError`; a call that fails keeps the
  changes made before it failed. Every call is logged before anything else happens, and fails with the error
  set for its operation if there is one.
* `add`, `remove` and `failOn` edit the page from outside and are not logged.
-/

namespace Selenese

inductive Operation where
  | navigate | title | currentUrl | findElement | tagName | text | attributeOf | isDisplayed
  | click | clear | sendKeys | selectOption | executeScript | cookieNamed | deleteCookie
deriving DecidableEq, Repr

namespace Operation

def all : List Operation :=
  [navigate, title, currentUrl, findElement, tagName, text, attributeOf, isDisplayed,
    click, clear, sendKeys, selectOption, executeScript, cookieNamed, deleteCookie]

def name : Operation → String
  | navigate => "navigate"
  | title => "title"
  | currentUrl => "current_url"
  | findElement => "find_element"
  | tagName => "tag_name"
  | text => "text"
  | attributeOf => "attribute"
  | isDisplayed => "is_displayed"
  | click => "click"
  | clear => "clear"
  | sendKeys => "send_keys"
  | selectOption => "select_option"
  | executeScript => "execute_script"
  | cookieNamed => "cookie_named"
  | deleteCookie => "delete_cookie"

def ofName? (name : String) : Option Operation := all.find? fun o => o.name = name

end Operation

/-- An element registered under a locator, found after some more failed lookups. -/
structure Registered where
  locator : Locator
  element : Element
  misses : Nat
deriving DecidableEq, Repr

structure Cookie where
  name : String
  value : String
deriving DecidableEq, Repr

/-- A reference to a found element: it tells the position of the element among those registered. -/
structure Handle where
  name : String
deriving DecidableEq, Repr

structure Session where
  title : String
  url : String
  /-- Titles that become current when their page is visited. -/
  pages : List (String × String)
  history : List String
  elements : List Registered
  cookies : List Cookie
  /-- Results of scripts by their code, if the session runs scripts at all. -/
  scripts : Option (List (String × Option String))
  failures : List (Operation × SessionError)
  /-- How often locators were looked up; each count is taken to stay within 32 bits. -/
  finds : List (Locator × Nat)
  calls : List String
deriving Repr

namespace Session

def empty : Session := ⟨"", "", [], [], [], [], none, [], [], []⟩

instance : Inhabited Session := ⟨empty⟩

/-! ## Edits -/

def remove (s : Session) (l : Locator) : Session :=
  { s with elements := s.elements.filter fun r => r.locator ≠ l }

/-- Registers an element in the last place, and instead of any other under its locator. -/
def add (s : Session) (l : Locator) (e : Element) (misses : Nat) : Session :=
  { s with elements := (s.remove l).elements ++ [⟨l, e, misses⟩] }

def failOn (s : Session) (o : Operation) (e : SessionError) : Session :=
  { s with failures := (o, e) :: s.failures }

def setScript (s : Session) (code : String) (result : Option String) : Session :=
  { s with scripts := some ((code, result) :: s.scripts.getD []) }

/-! ## Queries -/

def element? (s : Session) (l : Locator) : Option Element :=
  (s.elements.find? fun r => r.locator = l).map Registered.element

def findCount (s : Session) (l : Locator) : Nat := (s.finds.lookup l).getD 0

def wasCalled (s : Session) (start : String) : Bool :=
  s.calls.any fun c => start.toList.isPrefixOf c.toList

def supportsScripts (s : Session) : Bool := s.scripts.isSome

/-! ## Calls -/

abbrev Call := EStateM SessionError Session

def record (o : Operation) (detail : String) : Call Unit := fun s =>
  let s := { s with calls := s.calls ++ [o.name ++ ":" ++ detail] }
  match s.failures.lookup o with
  | some e => .error e s
  | none => .ok () s

def navigate (url : String) : Call Unit := do
  record .navigate url
  modify fun s =>
    { s with url := url, history := s.history ++ [url], title := (s.pages.lookup url).getD s.title }

def readTitle : Call String := do
  record .title ""
  return (← get).title

def currentUrl : Call String := do
  record .currentUrl ""
  return (← get).url

def handleAt (position : Nat) : Handle := ⟨"fake-" ++ toString position⟩

def countFind (l : Locator) : List (Locator × Nat) → List (Locator × Nat)
  | [] => [(l, 1)]
  | f :: r => if f.1 = l then (l, f.2 + 1) :: r else f :: countFind l r

/-- Looks an element up: the position where it is found, and the elements with one miss less where the
lookup fails because the element is not there yet. -/
def lookup (l : Locator) : List Registered → Option Nat × List Registered
  | [] => (none, [])
  | r :: rest =>
    if r.locator = l then
      if r.misses = 0 then (some 0, r :: rest) else (none, { r with misses := r.misses - 1 } :: rest)
    else
      let (i, rest) := lookup l rest
      (i.map (· + 1), r :: rest)

/-- A text probe finds the first element that is there and whose text contains the text; any other locator
finds the element registered under it. -/
def locate (l : Locator) (elements : List Registered) : Option Nat × List Registered :=
  match l.probedText? with
  | some t => (elements.findIdx? fun r => r.misses = 0 && Text.contains r.element.text t, elements)
  | none => lookup l elements

def findElement (l : Locator) : Call Handle := do
  record .findElement l.display
  let s ← get
  let (found, elements) := locate l s.elements
  set { s with finds := countFind l s.finds, elements := elements }
  match found with
  | some i => return handleAt i
  | none => throw (.ofLocator l)

/-- The position a handle tells, if an element is still registered there. -/
def position? (s : Session) (h : Handle) : Option Nat :=
  match (Text.afterPrefix? "fake-" h.name).map fun n => Text.readDecimal Text.maxWord n.toList with
  | some (.ok i) => if i < s.elements.length then some i else none
  | _ => none

/-- The element of a handle. -/
def deref (h : Handle) : Call Element := fun s =>
  match (s.position? h).bind fun i => s.elements[i]? with
  | some r => .ok r.element s
  | none => .error (.stale h.name) s

/-- Puts a changed element in the place of the old one. -/
def store (h : Handle) (e : Element) : Call Unit := fun s =>
  match s.position? h with
  | some i => .ok () { s with elements := s.elements.modify i fun r => { r with element := e } }
  | none => .error (.stale h.name) s

def tagName (h : Handle) : Call String := do
  record .tagName h.name
  return (← deref h).tag

def text (h : Handle) : Call String := do
  record .text h.name
  return (← deref h).text

def attributeOf (h : Handle) (name : String) : Call (Option String) := do
  record .attributeOf (h.name ++ "@" ++ name)
  return (← deref h).attribute? name

def isDisplayed (h : Handle) : Call Bool := do
  record .isDisplayed h.name
  return (← deref h).displayed

def click (h : Handle) : Call Unit := do
  record .click h.name
  store h (← deref h).click

def clear (h : Handle) : Call Unit := do
  record .clear h.name
  store h (← deref h).clear

def sendKeys (h : Handle) (keys : String) : Call Unit := do
  record .sendKeys (h.name ++ ":" ++ keys)
  store h ((← deref h).type keys)

def selectOption (h : Handle) (choice : OptionChoice) : Call Unit := do
  record .selectOption h.name
  match (← deref h).select? choice with
  | some e => store h e
  | none => throw (.noSuchElement choice.display)

/-- A script that the session does not know returns nothing. -/
def executeScript (code : String) : Call (Option String) := do
  record .executeScript code
  match (← get).scripts with
  | some results => return (results.lookup code).join
  | none => throw .scriptsUnavailable

def cookieNamed (name : String) : Call (Option Cookie) := do
  record .cookieNamed name
  return (← get).cookies.find? fun c => c.name = name

def deleteCookie (c : Cookie) : Call Unit := do
  record .deleteCookie c.name
  modify fun s => { s with cookies := s.cookies.filter fun d => d.name ≠ c.name }

end Session

end Selenese
