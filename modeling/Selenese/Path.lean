import Selenese.Text.Affix

/-!
# Selenese.Path

File paths as texts with slashes.

* `parts` are the names a path goes through; empty names and inner dots count for nothing.
* `folder`, `stem?` and `join` take paths apart and put them together, with the rest left as it is written.
-/

namespace Selenese.Path

def isAbsolute (p : String) : Bool := p.toList.head? == some '/'

/-- The names of a path. A dot counts only as the first name of a relative path. -/
def parts (p : String) : List String :=
  match Text.split '/' p with
  | first :: rest =>
    let named (n : String) : Bool := n ≠ "" && n ≠ "."
    (if first = "" then [] else [first]) ++ rest.filter named
  | [] => []

/-- The last name, unless it leads upwards or stays. -/
def fileName? (p : String) : Option String := (parts p).getLast?.filter fun n => n ≠ ".." && n ≠ "."

/-- A file name without its last extension; a dot that begins a name begins no extension. -/
def stemOf (name : String) : String :=
  let after := name.toList.reverse.takeWhile (· ≠ '.')
  let stem := (name.toList.reverse.drop (after.length + 1)).reverse
  if stem.isEmpty then name else String.ofList stem

def stem? (p : String) : Option String := (fileName? p).map stemOf

/-- A text without the slashes, and the dots between slashes, at its end; one slash stays if there is nothing before
it. -/
def trimEnd : (fuel : Nat) → List Char → List Char
  | 0, reversed => reversed
  | fuel + 1, reversed =>
    match reversed with
    | '/' :: [] => reversed
    | '/' :: r => trimEnd fuel r
    | '.' :: '/' :: r => trimEnd fuel ('/' :: r)
    | _ => reversed

/-- The path of what holds the last name of a path; the current folder, if it has no name. -/
def folder (p : String) : String :=
  let tidy := trimEnd p.length p.toList.reverse
  if (parts p).isEmpty then "."
  else String.ofList (trimEnd p.length (tidy.dropWhile (· ≠ '/'))).reverse

/-- A path from a folder on; an absolute path stands alone. -/
def join (folder p : String) : String :=
  if isAbsolute p then p
  else if folder = "" ∨ folder.toList.getLast? = some '/' then folder ++ p
  else folder ++ "/" ++ p

end Selenese.Path
