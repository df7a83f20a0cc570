import Selenese.Session.OptionChoice
import Selenese.Text.Lowercase

/-!
# Selenese.Session.Element

Elements of a page held in memory.
-/

namespace Selenese

structure Element where
  tag : String
  text : String
  attributes : List (String × String)
  displayed : Bool
  options : List ListOption
  selected : Option Nat
  /-- A count taken to stay within 32 bits. -/
  clicks : Nat
deriving DecidableEq, Repr

namespace Element

/-- A visible, empty element; tags are kept in lower case. -/
def ofTag (tag : String) : Element := ⟨Text.lowercase tag, "", [], true, [], none, 0⟩

def attribute? (e : Element) (name : String) : Option String := e.attributes.lookup name

/-- Writes an attribute, in place if it is there. -/
def putAttribute (name value : String) : List (String × String) → List (String × String)
  | [] => [(name, value)]
  | a :: r => if a.1 = name then (name, value) :: r else a :: putAttribute name value r

def setAttribute (e : Element) (name value : String) : Element :=
  { e with attributes := putAttribute name value e.attributes }

def value? (e : Element) : Option String := e.attribute? "value"

def setValue (e : Element) (value : String) : Element := e.setAttribute "value" value

def click (e : Element) : Element := { e with clicks := e.clicks + 1 }

def clear (e : Element) : Element := e.setValue ""

/-- Keystrokes are added at the end of the value. -/
def type (e : Element) (keys : String) : Element := e.setValue (e.value?.getD "" ++ keys)

/-- Selects an option, whose value becomes the value of the element. -/
def select? (e : Element) (choice : OptionChoice) : Option Element := do
  let i ← choice.find? e.options
  let o ← e.options[i]?
  return { e with selected := some i }.setValue o.value

end Element

end Selenese
