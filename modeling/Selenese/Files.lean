import Selenese.FileError
import Selenese.Path

/-!
# Selenese.Files

A folder of files held in memory.

* `read` and `write` go the way of a path name by name, as an operating system does: every name but the last has to
  be a folder.
* Outside of the folder there is nothing but the folders above it.
-/

namespace Selenese

/-- Files by the names that lead to them; a file whose content is no text has none. -/
structure Files where
  entries : List (List String × Option String)

namespace Files

def empty : Files := ⟨[]⟩

/-- What stands at a place in the folder. -/
inductive Item where
  | folder
  | file (content : Option String)
  | nothing

def itemAt (f : Files) (place : List String) : Item :=
  match f.entries.lookup place with
  | some content => .file content
  | none =>
    if place = [] ∨ f.entries.any (fun e => place.isPrefixOf e.1) then .folder else .nothing

def limit : Nat := 255

/-- Above the folder stand folders, and no other thing is there. -/
def outside (names : List String) : FileError :=
  if names.all fun n => n = "." || n = ".." then .isDirectory else .notFound

/-- Goes on from a folder by names: the place where they end. -/
def walk (f : Files) : (place : List String) → List String → Except FileError (List String)
  | place, [] => .ok place
  | place, n :: r =>
    if limit < n.utf8ByteSize then .error .nameTooLong
    else
      match f.itemAt place with
      | .nothing => .error .notFound
      | .file _ => .error .notDirectory
      | .folder =>
        if n = "." then walk f place r
        else if n = ".." then if place = [] then .error (outside r) else walk f place.dropLast r
        else walk f (place ++ [n]) r

/-- Whether a path asks for a folder. -/
def asksForFolder (path : String) : Bool :=
  match (Text.split '/' path).getLast? with
  | some n => n = "" || n = "." || n = ".."
  | none => false

def locate (f : Files) (path : String) : Except FileError (List String) :=
  if path.toList.contains '\x00' then .error .badPath
  else if path = "" ∨ (Path.isAbsolute path ∧ Path.parts path ≠ []) then .error .notFound
  else f.walk [] (Path.parts path)

def read (f : Files) (path : String) : Except FileError String := do
  let place ← f.locate path
  match f.itemAt place with
  | .nothing => .error .notFound
  | .folder => .error .isDirectory
  | .file content =>
    if asksForFolder path then .error .notDirectory
    else
      match content with
      | some text => .ok text
      | none => .error .notText

def put (place : List String) (text : String) :
    List (List String × Option String) → List (List String × Option String)
  | [] => [(place, some text)]
  | e :: r => if e.1 = place then (place, some text) :: r else e :: put place text r

/-- Writes a file whose folder is there. -/
def write (f : Files) (path text : String) : Except FileError Files := do
  let place ← f.locate path
  match f.itemAt place with
  | .folder => .error .isDirectory
  | .file _ => if asksForFolder path then .error .notDirectory else .ok ⟨put place text f.entries⟩
  | .nothing =>
    if asksForFolder path then .error .isDirectory
    else
      match f.itemAt place.dropLast with
      | .folder => .ok ⟨put place text f.entries⟩
      | .file _ => .error .notDirectory
      | .nothing => .error .notFound

end Files

end Selenese
