import Selenese.Settings
import Selenese.Yaml.Node
import Selenese.Yaml.Number

/-!
# Selenese.Settings.Reader

Settings from a YAML document.

* `Settings.ofDocument` reads the fields that a document gives. Fields of other names are ignored, and no field may be
  given twice.
* `Settings.parse` reads a text and lets pass what can drive a run.
-/

namespace Selenese.Settings

open Yaml

/-- The text of a node, however it is written. -/
def textOf (d : Document) (n : Node) : Except Yaml.Problem String :=
  match d.resolve n with
  | .scalar _ _ text => .ok text
  | _ => .error (.expected "a string")

def isNull (text : String) : Bool := ["~", "null", "Null", "NULL"].contains text

/-- The text of a node, unless it is a plain way to write nothing. -/
def textUnlessNull (d : Document) (n : Node) : Except Yaml.Problem (Option String) :=
  match d.resolve n with
  | .scalar tag true text =>
    match tag with
    | some "tag:yaml.org,2002:null" => if isNull text then .ok none else .error (.expected "null")
    | some _ => .ok (some text)
    | none => .ok (if text = "" ∨ isNull text then none else some text)
  | n => (textOf d n).map some

/-- The number that a plain text is. -/
def numberOf (limit : Nat) (d : Document) (n : Node) : Except Yaml.Problem Nat :=
  match d.resolve n with
  | .scalar _ true text =>
    match unsigned? limit text with
    | some n => .ok n
    | none => .error (.expected "a number")
  | _ => .error (.expected "a number")

/-- The texts of a sequence; a node that is left out has none. -/
def textsOf (d : Document) (n : Node) : Except Yaml.Problem (List String) :=
  match d.resolve n with
  | .sequence items => items.mapM (textOf d)
  | .scalar _ true "" => .ok []
  | _ => .error (.expected "a sequence")

/-- The names of the fields. -/
def fields : List String := [
  "base_url", "poll_interval_ms", "max_poll_attempts", "settle_ms", "page_container", "run_name", "combinations"]

/-- Writes the value of a field. -/
def setField (d : Document) (s : Settings) (name : String) (value : Node) : Except Yaml.Problem Settings :=
  match name with
  | "base_url" => return { s with baseUrl := ← textUnlessNull d value }
  | "poll_interval_ms" => return { s with interval := ← numberOf Text.maxWord d value }
  | "max_poll_attempts" => return { s with attempts := ← numberOf Text.maxCount d value }
  | "settle_ms" => return { s with settle := ← numberOf Text.maxWord d value }
  | "page_container" => return { s with pageContainer := ← textOf d value }
  | "run_name" => return { s with runName := ← textOf d value }
  | "combinations" => return { s with combinations := ← textsOf d value }
  | _ => return s

def setFields (d : Document) :
    (given : List String) → List (Node × Node) → Settings → Except Yaml.Problem Settings
  | _, [], s => .ok s
  | given, (key, value) :: rest, s => do
    let name ← textOf d key
    if fields.contains name && given.contains name then throw (.repeated name)
    setFields d (name :: given) rest (← setField d s name value)

/-- The settings of a document; what it does not give has its standard value. -/
def ofDocument (d : Document) : Except Yaml.Problem Settings :=
  match d.root with
  | .mapping entries => setFields d [] entries standard
  | .scalar _ true "" => .ok standard
  | _ => .error (.expected "settings")

/-- The settings of a text, whether they can drive a run or not. -/
def read (source : String) : Except Yaml.Problem Settings := do
  match ← Document.parse source with
  | some d => ofDocument d
  | none => return standard

def parse (source : String) : Except Fault Settings :=
  match read source with
  | .ok s => s.validate
  | .error p => .error (.yaml p)

end Selenese.Settings
