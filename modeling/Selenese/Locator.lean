import Selenese.Text.Affix

/-!
# Selenese.Locator

Locators: how a script line names an element of the page.

* `Locator` is a strategy with its selector.
* `Locator.resolve` reads a target as recorded; every text is some locator.
* `Locator.display` writes a locator with the prefix of its strategy.
-/

namespace Selenese

inductive Locator where
  | css (selector : String)
  | id (selector : String)
  | name (selector : String)
  | linkText (selector : String)
  | xpath (selector : String)
deriving DecidableEq, Repr

namespace Locator

open Text (afterPrefix?)

/-- The prefixes a target may begin with. None of them begins another, so their order is free. -/
def prefixes : List (String × (String → Locator)) :=
  [("css=", css), ("id=", id), ("identifier=", id), ("name=", name), ("link=", linkText), ("xpath=", xpath)]

/-- A target without a known prefix is an XPath expression. -/
def resolve (raw : String) : Locator :=
  match prefixes.findSome? fun p => (afterPrefix? p.1 raw).map p.2 with
  | some l => l
  | none => xpath raw

def selector : Locator → String
  | css s | id s | name s | linkText s | xpath s => s

def display : Locator → String
  | css s => "css=" ++ s
  | id s => "id=" ++ s
  | name s => "name=" ++ s
  | linkText s => "link=" ++ s
  | xpath s => "xpath=" ++ s

/-- The name that browser drivers know the strategy by. -/
def strategy : Locator → String
  | css _ => "css selector"
  | id _ => "id"
  | name _ => "name"
  | linkText _ => "link text"
  | xpath _ => "xpath"

end Locator

end Selenese
