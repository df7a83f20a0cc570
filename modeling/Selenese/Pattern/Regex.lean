import Selenese.Pattern.Regex.Parser

/-!
# Selenese.Pattern.Regex

Regular expressions from their text: `Regex.compile` reads one and refuses those that would grow too large. How
large that is, `Regex.weight` only estimates: near the limit an expression may be taken or refused otherwise than by
its true size.
-/

namespace Selenese.Regex

def compileWith (f : Flags) (source : String) : Except Error Regex :=
  match parse f source with
  | .error p => .error (.malformed p)
  | .ok r => if sizeLimit < r.weight then .error .tooLarge else .ok r

def compile (source : String) : Except Error Regex := compileWith .standard source

end Selenese.Regex
