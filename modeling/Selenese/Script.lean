import Selenese.Text.Affix

/-!
# Selenese.Script

Recorded scripts: lines of a command with a target and a value, and the name under which a run of a script is
reported.
-/

namespace Selenese

structure Line where
  command : String
  target : String
  value : String
deriving DecidableEq, Repr

namespace Line

/-- Whether the command begins with `assert`, in capital or small ASCII letters. A failure of such a line
ends the run. -/
def isAssertion (l : Line) : Bool :=
  (l.command.toList.take 6).map Char.toLower == "assert".toList

def display (l : Line) : String := l.command ++ " | " ++ l.target ++ " | " ++ l.value

end Line

structure Script where
  title : String
  baseUrl : String
  lines : List Line
deriving DecidableEq, Repr

namespace Script

def untitled : String := "Untitled Script"

def empty : Script := ⟨untitled, "", []⟩

end Script

/-- Names one run of one test: a suite path of dotted segments, a fixture and a test. -/
structure TestId where
  suite : String
  fixture : String
  test : String
deriving DecidableEq, Repr

namespace TestId

/-- The segments of the suite path; there is always at least one. -/
def segments (d : TestId) : List String := Text.split '.' d.suite

def fixturePath (d : TestId) : String := d.suite ++ "." ++ d.fixture

def fullPath (d : TestId) : String := d.suite ++ "." ++ d.fixture ++ "." ++ d.test

end TestId

end Selenese
