import Selenese.Text.Affix
import Selenese.Text.Blank
import Selenese.Text.Decimal
import Selenese.Text.Quoted

/-!
# Selenese.Session.OptionChoice

Which option of a selection list a line picks: `OptionChoice.parse` reads it as recorded, `find?` is the
index of the first option it fits.
-/

namespace Selenese

inductive OptionChoice where
  | text (text : String)
  | value (value : String)
  | index (index : Nat)
deriving DecidableEq, Repr

/-- An entry of a selection list. -/
structure ListOption where
  text : String
  value : String
deriving DecidableEq, Repr

namespace OptionChoice

open Text

/-- A value without a known prefix is the text of the option. -/
def parse (raw : String) : Except DecimalError OptionChoice :=
  match afterPrefix? "label=" raw with
  | some t => .ok (text t)
  | none =>
    match afterPrefix? "value=" raw with
    | some v => .ok (value v)
    | none =>
      match afterPrefix? "index=" raw with
      | some i => (readDecimal maxWord (trim i).toList).map index
      | none => .ok (text raw)

def find? (options : List ListOption) : OptionChoice → Option Nat
  | text t => options.findIdx? fun o => o.text = t
  | value v => options.findIdx? fun o => o.value = v
  | index i => if i < options.length then some i else none

/-- How an error names the option that is missing. -/
def display : OptionChoice → String
  | text t => "option Text(" ++ quoted t ++ ")"
  | value v => "option Value(" ++ quoted v ++ ")"
  | index i => "option Index(" ++ toString i ++ ")"

end OptionChoice

end Selenese
