import Selenese.CharRef.Decode
import Selenese.Pattern.Regex
import Selenese.Pattern.Regex.Find
import Selenese.Text.Lowercase

/-!
# Selenese.Variables

The variables of a run: named slots, found by the lower case of their names, that hold a text or stand empty.

* `set`, `unset`, `get?` write and read a slot.
* `expand` replaces the placeholders of a text by the values of their variables.
* `decode` expands a text and then decodes its character references.
-/

namespace Selenese

structure Variables where
  slots : List (String × Option String)

namespace Variables

def empty : Variables := ⟨[]⟩

instance : Inhabited Variables := ⟨empty⟩

/-- Writes the slot of a key, in place if there is one. -/
def put (key : String) (value : Option String) : List (String × Option String) → List (String × Option String)
  | [] => [(key, value)]
  | s :: r => if s.1 = key then (key, value) :: r else s :: put key value r

def set (v : Variables) (name value : String) : Variables :=
  ⟨put (Text.lowercase name) (some value) v.slots⟩

/-- Leaves the slot of a name without a value. -/
def unset (v : Variables) (name : String) : Variables :=
  ⟨put (Text.lowercase name) none v.slots⟩

def slot? (v : Variables) (key : String) : Option (Option String) :=
  (v.slots.find? fun s => s.1 = key).map Prod.snd

def get? (v : Variables) (name : String) : Option String :=
  (v.slot? (Text.lowercase name)).join

def size (v : Variables) : Nat := v.slots.length

def isEmpty (v : Variables) : Bool := v.slots.isEmpty

/-- A dollar sign, and between braces the name: one or more characters other than a closing brace. -/
def placeholder : Regex := (Regex.compile "\\$\\\x7b([^\x7d]+?)\\\x7d").toOption.getD .empty

/-- Replaces the placeholders of a text, all found before any is replaced. A name without a value expands to
nothing. -/
def expand (v : Variables) (raw : String) : String :=
  placeholder.replaceAll raw fun group =>
    (((group 1).bind fun name => v.get? (String.ofList name)).getD "").toList

def decode (v : Variables) (raw : String) : String := CharRef.decode (v.expand raw)

end Variables

end Selenese
