import Selenese.Script.Reader

/-!
# Selenese.Suite.Link

Suites as they are recorded: pages with a table of links to scripts.
-/

namespace Selenese.Suite

structure Link where
  title : String
  target : String
deriving DecidableEq, Repr

namespace Link

open Html

def isSuiteTable (n : Node) : Bool := n.isNamed "table" && n.classes.contains "selenium".toList

/-- The links in the tables of a suite, in order. -/
def ofPage (page : Node) : List Link :=
  (page.select [isSuiteTable, Node.isNamed "a"]).map fun a => ⟨a.content, (a.attribute? "href").getD ""⟩

def parse (source : String) : Except Fault (List Link) := return ofPage (← pageOf source)

end Link

end Selenese.Suite
