import Selenese.FileError
import Selenese.Session.Error
import Selenese.Yaml.Problem

/-!
# Selenese.Fault

What ends the replay of a script, or keeps it from beginning.
-/

namespace Selenese

inductive Fault where
  | unsupportedCommand (command : String)
  | assertionFailed (message location : String)
  /-- A wait gave up at an assertion. -/
  | timeout (attempts : Nat) (location : String)
  | session (error : SessionError)
  | invalidArgument (message : String)
  | parse (message : String)
  | config (message : String)
  | file (error : FileError)
  | yaml (problem : Yaml.Problem)
deriving DecidableEq, Repr

namespace Fault

def message : Fault → String
  | unsupportedCommand c => "Selenium command '" ++ c ++ "' is not supported by this script runner"
  | assertionFailed m l => "Assertion failed at [" ++ l ++ "]: " ++ m
  | timeout n l => "Timed out after " ++ toString n ++ " polling attempts at [" ++ l ++ "]"
  | session e => "Automation session error: " ++ e.message
  | invalidArgument m => "Invalid argument: " ++ m
  | parse m => "Parse error: " ++ m
  | config m => "Configuration error: " ++ m
  | file e => "I/O error: " ++ e.message
  | yaml p => "YAML error: " ++ p.message

/-- A failed check, where the session is in order. -/
def isAssertion : Fault → Bool
  | assertionFailed .. | timeout .. => true
  | _ => false

/-- The texts of the errors that led to this one. -/
def causes : Fault → List String
  | session e => e.message :: e.causes
  | file e => [e.message]
  | yaml p => [p.message]
  | _ => []

end Fault

end Selenese
