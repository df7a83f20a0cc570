import Selenese.Text.Lowercase

/-!
# Selenese.Command

The commands of recorded scripts and what each of them does.

* `Command.table` lists the command names as they are recorded, each with its `Behaviour`.
* `Command.lookup?` finds a command by the lower case of its name.

The `verify` and `assert` forms of a command behave alike; they differ in what a failure means.
-/

namespace Selenese

inductive Behaviour where
  /-- Visits the base URL followed by the target. -/
  | open
  /-- Compares the title of the page with the target. -/
  | checkTitle
  /-- Compares the value of an input, or the text of any other element, with the value of the line. -/
  | checkValueOrText
  /-- Requires the target as text on the page, or stores whether it is there. -/
  | checkTextPresent (store : Bool)
  | checkTextNotPresent
  | checkElementVisible
  | checkElementPresent
  | checkElementNotPresent
  /-- Clicks an element and waits for the page. -/
  | click
  | clear
  | type
  | waitForElement (present : Bool)
  | waitForText (present : Bool)
  | waitForVisibility (visible : Bool)
  /-- Picks an option, and may wait for the page. -/
  | select (wait : Bool)
  | storeText
  | storeEval
  /-- Deletes a cookie and ignores all errors. -/
  | deleteCookie
deriving DecidableEq, Repr

namespace Command

def table : List (String × Behaviour) := [
  ("open", .open),
  ("verifyTitle", .checkTitle),
  ("assertTitle", .checkTitle),
  ("verifyValue", .checkValueOrText),
  ("assertValue", .checkValueOrText),
  ("verifyText", .checkValueOrText),
  ("assertText", .checkValueOrText),
  ("verifyTextPresent", .checkTextPresent false),
  ("assertTextPresent", .checkTextPresent false),
  ("storeTextPresent", .checkTextPresent true),
  ("verifyTextNotPresent", .checkTextNotPresent),
  ("assertTextNotPresent", .checkTextNotPresent),
  ("verifyElementVisible", .checkElementVisible),
  ("assertElementVisible", .checkElementVisible),
  ("verifyElementPresent", .checkElementPresent),
  ("assertElementPresent", .checkElementPresent),
  ("verifyElementNotPresent", .checkElementNotPresent),
  ("assertElementNotPresent", .checkElementNotPresent),
  ("click", .click),
  ("clickAndWait", .click),
  ("clear", .clear),
  ("type", .type),
  ("waitForElementPresent", .waitForElement true),
  ("waitForElementNotPresent", .waitForElement false),
  ("waitForText", .waitForText true),
  ("waitForTextPresent", .waitForText true),
  ("waitForTextNotPresent", .waitForText false),
  ("waitForElementVisible", .waitForVisibility true),
  ("waitForElementNotVisible", .waitForVisibility false),
  ("select", .select false),
  ("selectAndWait", .select true),
  ("storeText", .storeText),
  ("storeEval", .storeEval),
  ("deleteCookie", .deleteCookie)]

/-- The table entry whose name has the same lower case. -/
def recorded? (command : String) : Option (String × Behaviour) :=
  table.find? fun e => Text.lowercase e.1 = Text.lowercase command

def lookup? (command : String) : Option Behaviour := (recorded? command).map Prod.snd

def isKnown (command : String) : Bool := (lookup? command).isSome

/-- The names of all commands in the order of their lower case. -/
def names : List String :=
  (table.map Prod.fst).mergeSort fun a b => Text.lowercase a ≤ Text.lowercase b

end Command

end Selenese
