import Selenese.Command.Execute
import Selenese.Fault
import Selenese.Text.Blank
import Selenese.Text.Quoted

/-!
# Selenese.Settings

The settings of a suite run.

* `Settings.standard` has a value for every field.
* `validate` tells the first reason why settings cannot drive a run.
* `options` is what a replay is told.
-/

namespace Selenese

structure Settings where
  /-- Replaces the base URL of every script. -/
  baseUrl : Option String
  /-- Milliseconds between two probes of a wait. -/
  interval : Nat
  /-- Probes of a wait. -/
  attempts : Nat
  /-- Milliseconds to pause after a click. -/
  settle : Nat
  pageContainer : String
  /-- The name of the report. -/
  runName : String
  /-- The fixtures that every script is run with. -/
  combinations : List String
deriving DecidableEq, Repr

namespace Settings

def standard : Settings where
  baseUrl := none
  interval := 1000
  attempts := 60
  settle := 1000
  pageContainer := "css=body"
  runName := "Selenium Script Test"
  combinations := ["default"]

/-- Why settings cannot drive a run. -/
inductive Problem where
  | noAttempts
  | noCombinations
  | blankCombination (name : String)
  | noPageContainer
deriving DecidableEq, Repr

def Problem.message : Problem → String
  | noAttempts => "max_poll_attempts must be at least 1"
  | noCombinations => "combinations must not be empty"
  | blankCombination n => "combination names must not be blank: " ++ Text.quoted n
  | noPageContainer => "page_container must not be empty"

def problem? (s : Settings) : Option Problem :=
  if s.attempts = 0 then some .noAttempts
  else if s.combinations = [] then some .noCombinations
  else
    match s.combinations.find? Text.allBlank with
    | some n => some (.blankCombination n)
    | none => if Text.allBlank s.pageContainer then some .noPageContainer else none

/-- Lets settings pass that can drive a run. -/
def validate (s : Settings) : Except Fault Settings :=
  match s.problem? with
  | some p => .error (.config p.message)
  | none => .ok s

def options (s : Settings) : Options := ⟨⟨s.interval, s.attempts⟩, s.settle, s.pageContainer⟩

end Settings

end Selenese
