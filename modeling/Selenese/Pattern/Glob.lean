import Selenese.Pattern.Regex
import Selenese.Text.Affix

/-!
# Selenese.Pattern.Glob

Globs: `*` stands for any text, `?` for any character, and every other character for itself in either case.

* `Glob.source` is the regular expression of a glob: the wildcards become expressions, all else is escaped.
* `Glob.compile` reads that expression, without regard to case and with line ends as any other character.
-/

namespace Selenese.Glob

/-- Every character of the glob is escaped first, then the escaped wildcards become expressions. -/
def source (glob : String) : String :=
  let escaped := Regex.escaped glob.toList
  let body := Text.replace ['\\', '?'] ['.'] (Text.replace ['\\', '*'] ['.', '*'] escaped)
  String.ofList ('^' :: body ++ ['$'])

def flags : Regex.Flags := { Regex.Flags.standard with caseless := true, dotAll := true }

def compile (glob : String) : Except Regex.Error Regex := Regex.compileWith flags (source glob)

end Selenese.Glob
