import Selenese.Text.Affix

/-!
# Selenese.Html.Doctype

Document types, and whether one asks for the layout of old browsers. In such pages a table does not end a paragraph.
-/

namespace Selenese.Html.Doctype

/-- Public identifiers, in lower case. -/
def publicIds : List String := [
  "-//w3o//dtd w3 html strict 3.0//en//", "-/w3c/dtd html 4.0 transitional/en", "html"]

/-- Beginnings of public identifiers, in lower case. -/
def publicStarts : List String := [
  "+//silmaril//dtd html pro v0r11 19970101//", "-//as//dtd html 3.0 aswedit + extensions//",
  "-//advasoft ltd//dtd html 3.0 aswedit + extensions//", "-//ietf//dtd html 2.0 level 1//",
  "-//ietf//dtd html 2.0 level 2//", "-//ietf//dtd html 2.0 strict level 1//",
  "-//ietf//dtd html 2.0 strict level 2//", "-//ietf//dtd html 2.0 strict//", "-//ietf//dtd html 2.0//",
  "-//ietf//dtd html 2.1e//", "-//ietf//dtd html 3.0//", "-//ietf//dtd html 3.2 final//",
  "-//ietf//dtd html 3.2//", "-//ietf//dtd html 3//", "-//ietf//dtd html level 0//",
  "-//ietf//dtd html level 1//", "-//ietf//dtd html level 2//", "-//ietf//dtd html level 3//",
  "-//ietf//dtd html strict level 0//", "-//ietf//dtd html strict level 1//",
  "-//ietf//dtd html strict level 2//", "-//ietf//dtd html strict level 3//", "-//ietf//dtd html strict//",
  "-//ietf//dtd html//", "-//metrius//dtd metrius presentational//",
  "-//microsoft//dtd internet explorer 2.0 html strict//", "-//microsoft//dtd internet explorer 2.0 html//",
  "-//microsoft//dtd internet explorer 2.0 tables//", "-//microsoft//dtd internet explorer 3.0 html strict//",
  "-//microsoft//dtd internet explorer 3.0 html//", "-//microsoft//dtd internet explorer 3.0 tables//",
  "-//netscape comm. corp.//dtd html//", "-//netscape comm. corp.//dtd strict html//",
  "-//o'reilly and associates//dtd html 2.0//", "-//o'reilly and associates//dtd html extended 1.0//",
  "-//o'reilly and associates//dtd html extended relaxed 1.0//",
  "-//softquad software//dtd hotmetal pro 6.0::19990601::extensions to html 4.0//",
  "-//softquad//dtd hotmetal pro 4.0::19971010::extensions to html 4.0//",
  "-//spyglass//dtd html 2.0 extended//", "-//sq//dtd html 2.0 hotmetal + extensions//",
  "-//sun microsystems corp.//dtd hotjava html//", "-//sun microsystems corp.//dtd hotjava strict html//",
  "-//w3c//dtd html 3 1995-03-24//", "-//w3c//dtd html 3.2 draft//", "-//w3c//dtd html 3.2 final//",
  "-//w3c//dtd html 3.2//", "-//w3c//dtd html 3.2s draft//", "-//w3c//dtd html 4.0 frameset//",
  "-//w3c//dtd html 4.0 transitional//", "-//w3c//dtd html experimental 19960712//",
  "-//w3c//dtd html experimental 970421//", "-//w3c//dtd w3 html//", "-//w3o//dtd w3 html 3.0//",
  "-//webtechs//dtd mozilla html 2.0//", "-//webtechs//dtd mozilla html//"]

/-- Beginnings of public identifiers that count only where no system identifier follows. -/
def lonePublicStarts : List String := [
  "-//w3c//dtd html 4.01 frameset//", "-//w3c//dtd html 4.01 transitional//"]

def systemIds : List String := ["http://www.ibm.com/data/dtd/v11/ibmxhtml1-transitional.dtd"]

/-- What a document type says after its name. -/
structure Ids where
  publicId : Option (List Char)
  systemId : Option (List Char)
  /-- It was not written as it should be. -/
  broken : Bool

def isBlank (c : Char) : Bool := c == '\t' || c == '\n' || c == '\x0c' || c == ' '

/-- A quoted identifier, and what follows it if it was closed. -/
def identifier? (l : List Char) : Option (List Char × Option (List Char)) :=
  match l.dropWhile isBlank with
  | c :: r =>
    if c = '"' ∨ c = '\'' then
      match r.dropWhile (· ≠ c) with
      | [] => some (r.takeWhile (· ≠ c), none)
      | _ :: rest => some (r.takeWhile (· ≠ c), some rest)
    else none
  | [] => none

def systemPart (publicId : Option (List Char)) (l : List Char) : Ids :=
  match identifier? l with
  | some (id, rest) => ⟨publicId, some id, rest.isNone⟩
  | none => ⟨publicId, none, true⟩

def publicPart (l : List Char) : Ids :=
  match identifier? l with
  | some (id, none) => ⟨some id, none, true⟩
  | some (id, some rest) =>
    if (rest.dropWhile isBlank).isEmpty then ⟨some id, none, false⟩ else systemPart (some id) rest
  | none => ⟨none, none, true⟩

def ids (l : List Char) : Ids :=
  match l.dropWhile isBlank with
  | [] => ⟨none, none, false⟩
  | l =>
    let word := String.ofList ((l.take 6).map Char.toLower)
    if word = "public" then publicPart (l.drop 6)
    else if word = "system" then systemPart none (l.drop 6)
    else ⟨none, none, true⟩

def Ids.isLegacy (i : Ids) : Bool :=
  let publicId := (i.publicId.getD []).map Char.toLower
  let startsWith (starts : List String) : Bool := starts.any fun s => s.toList.isPrefixOf publicId
  i.broken || publicIds.contains (String.ofList publicId) || startsWith publicStarts
    || (i.systemId.any fun s => systemIds.contains (String.ofList (s.map Char.toLower)))
    || (i.systemId.isNone && startsWith lonePublicStarts)

/-- Decides by what stands between the word `doctype` and the end of the declaration. -/
def isLegacy (body : List Char) : Bool :=
  let (name, rest) := (body.dropWhile isBlank).span fun c => !isBlank c
  String.ofList (name.map Char.toLower) ≠ "html" || (ids rest).isLegacy

end Selenese.Html.Doctype
