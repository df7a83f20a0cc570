import Selenese.Report

/-!
# Selenese.Report.Xml

The report as an XML document.

* `escape` writes a text into an attribute value in double quotes.
* `cdata` writes a text as CDATA sections: where the text would end a section, a new one is begun.
* `Report.toXml` lays the elements out, one tag a line.
-/

namespace Selenese.Report.Xml

def escapeChar : Char → List Char
  | '&' => "&amp;".toList
  | '<' => "&lt;".toList
  | '>' => "&gt;".toList
  | '"' => "&quot;".toList
  | '\'' => "&apos;".toList
  | c => [c]

def escape (s : String) : String := String.ofList (s.toList.flatMap escapeChar)

/-- Breaks every section end of a text by ending the section after the brackets and beginning another. -/
def splitEnds : List Char → List Char
  | [] => []
  | ']' :: ']' :: '>' :: r => "]]]]><![CDATA[>".toList ++ splitEnds r
  | c :: r => c :: splitEnds r

def cdata (s : String) : String := "<![CDATA[" ++ String.ofList (splitEnds s.toList) ++ "]]>"

def attr (name value : String) : String := " " ++ name ++ "=\"" ++ escape value ++ "\""

def boolText (b : Bool) : String := if b then "True" else "False"

/-- The attributes of the flags that are set. -/
def flagAttrs (f : Flags) : String :=
  (f.executed.map fun b => attr "executed" (boolText b)).getD ""
    ++ (f.verdict.map fun v => attr "result" v.name).getD ""
    ++ (f.success.map fun b => attr "success" (boolText b)).getD ""

/-- Seconds with three places. -/
def seconds (micros : Nat) : String :=
  let millis := (micros + 500) / 1000
  let places := toString (millis % 1000)
  toString (millis / 1000) ++ "." ++ "".pushn '0' (3 - places.length) ++ places

def timeAttr (time : Option Nat) : String := (time.map fun t => attr "time" (seconds t)).getD ""

def pad (depth : Nat) : String := "".pushn ' ' (2 * depth)

def line (depth : Nat) (text : String) : String := pad depth ++ text ++ "\n"

/-- An element over several lines. -/
def block (depth : Nat) (name content : String) : String :=
  line depth ("<" ++ name ++ ">") ++ content ++ line depth ("</" ++ name ++ ">")

def textElement (depth : Nat) (name text : String) : String :=
  line depth ("<" ++ name ++ ">" ++ cdata text ++ "</" ++ name ++ ">")

def property (depth : Nat) (p : String × String) : String :=
  line depth ("<property" ++ attr "name" p.1 ++ attr "value" p.2 ++ " />")

def properties (depth : Nat) : List (String × String) → String
  | [] => ""
  | ps => block depth "properties" (String.join (ps.map (property (depth + 1))))

/-- The failure of a test case, or else the reason why it was ignored. -/
def outcome (depth : Nat) (c : TestCase) : String :=
  match c.failure, c.reason with
  | some f, _ =>
    block depth "failure" (textElement (depth + 1) "message" f.message
      ++ textElement (depth + 1) "stack-trace" f.trace)
  | none, some r => block depth "reason" (textElement (depth + 1) "message" r)
  | none, none => ""

def testCase (depth : Nat) (c : TestCase) : String :=
  let start := "<test-case" ++ attr "name" c.name ++ flagAttrs c.flags ++ timeAttr c.time
    ++ attr "asserts" (toString c.asserts)
  if c.properties.isEmpty && c.failure.isNone && c.reason.isNone then
    line depth (start ++ " />")
  else
    line depth (start ++ ">") ++ properties (depth + 1) c.properties ++ outcome (depth + 1) c
      ++ line depth "</test-case>"

mutual

/-- A scope, the scopes in it and then the test cases in it. -/
def scope (depth : Nat) : Scope → String
  | ⟨kind, name, flags, time, inner, cases⟩ =>
    line depth ("<test-suite" ++ attr "type" kind.name ++ attr "name" name ++ flagAttrs flags
        ++ timeAttr time ++ ">")
      ++ block (depth + 1) "results"
        (scopes (depth + 2) inner ++ String.join (cases.map (testCase (depth + 2))))
      ++ line depth "</test-suite>"

def scopes (depth : Nat) : List Scope → String
  | [] => ""
  | s :: r => scope depth s ++ scopes depth r

end

def header (r : Report) : String :=
  let t := r.tally
  "<test-results" ++ attr "name" r.name ++ attr "total" (toString t.total) ++ attr "errors" (toString t.errors)
    ++ attr "failures" (toString t.failures) ++ attr "not-run" (toString t.notRun)
    ++ attr "inconclusive" (toString t.inconclusive) ++ attr "ignored" (toString t.ignored)
    ++ attr "skipped" "0" ++ attr "invalid" (toString t.invalid)
    ++ attr "date" r.created.date ++ attr "time" r.created.time ++ ">"

def environment (e : Environment) : String :=
  line 1 ("<environment" ++ attr "nunit-version" e.formatVersion ++ attr "clr-version" e.runtime
      ++ attr "os-version" e.system ++ attr "platform" e.platform ++ attr "cwd" e.folder
      ++ attr "machine-name" e.machine ++ attr "user" e.user ++ attr "user-domain" e.domain ++ " />")
    ++ line 1 ("<culture-info" ++ attr "current-culture" e.culture ++ attr "current-uiculture" e.culture
      ++ " />")

end Xml

def toXml (r : Report) : String :=
  Xml.line 0 "<?xml version=\"1.0\" encoding=\"utf-8\" standalone=\"no\"?>"
    ++ Xml.line 0 (Xml.header r) ++ Xml.environment r.environment
    ++ (r.root.map (Xml.scope 1)).getD "" ++ Xml.line 0 "</test-results>"

end Selenese.Report
