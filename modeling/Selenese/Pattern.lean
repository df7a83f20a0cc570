import Selenese.Pattern.Glob
import Selenese.Pattern.Regex
import Selenese.Text.Affix

/-!
# Selenese.Pattern

Patterns that the text of a page is compared with.

* `Pattern.split` reads the mode from the prefix of an expected value.
* `Pattern.check` compares a text with an expected value and says how they differ.
-/

namespace Selenese

inductive MatchMode where
  /-- The text is the pattern. -/
  | exact
  /-- The text fits a glob, whatever the case of its letters. -/
  | glob
  /-- A part of the text fits a regular expression. -/
  | regex
  /-- No prefix: the text is the expected value. -/
  | literal
deriving DecidableEq, Repr

def MatchMode.name : MatchMode → String
  | .exact => "exact"
  | .glob => "glob"
  | .regex => "regex"
  | .literal => "literal"

namespace Pattern

open Text (afterPrefix?)

/-- The mode of an expected value and its pattern, the prefix taken off. -/
def split (expected : String) : MatchMode × String :=
  match afterPrefix? "exact:" expected with
  | some p => (.exact, p)
  | none =>
    match afterPrefix? "glob:" expected with
    | some p => (.glob, p)
    | none =>
      match afterPrefix? "regex:" expected with
      | some p => (.regex, p)
      | none => (.literal, expected)

/-- Why a text does not match. -/
inductive Mismatch where
  | different (mode : MatchMode) (pattern actual : String)
  /-- The pattern cannot be read. -/
  | invalid (mode : MatchMode) (pattern : String) (error : Regex.Error)
deriving DecidableEq, Repr

def Mismatch.message : Mismatch → String
  | .different mode pattern actual =>
    "expected " ++ mode.name ++ " match of '" ++ pattern ++ "' but was '" ++ actual ++ "'"
  | .invalid mode pattern e => "invalid " ++ mode.name ++ " pattern '" ++ pattern ++ "': " ++ e.message

def test (actual pattern : String) : MatchMode → Except Regex.Error Bool
  | .exact | .literal => .ok (actual == pattern)
  | .glob => do return (← Glob.compile pattern).search actual
  | .regex => do return (← Regex.compile pattern).search actual

def check (actual expected : String) : Except Mismatch Unit :=
  let (mode, pattern) := split expected
  match test actual pattern mode with
  | .ok true => .ok ()
  | .ok false => .error (.different mode pattern actual)
  | .error e => .error (.invalid mode pattern e)

def isMatch (actual expected : String) : Bool := (check actual expected).isOk

end Pattern

end Selenese
