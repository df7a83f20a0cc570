import Selenese.Settings.Reader

/-!
# Selenese.Settings.Overrides

Settings of a file with values of a command line in their place.

* The settings of a file have to be able to drive a run before anything is replaced.
* What comes out has to be able to drive a run too.
-/

namespace Selenese

/-- Values that take the place of settings. -/
structure Overrides where
  baseUrl : Option String
  /-- Takes the place of the combinations if there is any. -/
  combinations : List String
  runName : Option String
deriving DecidableEq, Repr

namespace Settings

def override (o : Overrides) (s : Settings) : Settings :=
  { s with
    baseUrl := o.baseUrl <|> s.baseUrl
    combinations := if o.combinations.isEmpty then s.combinations else o.combinations
    runName := o.runName.getD s.runName }

/-- Why there are no settings for a run. -/
inductive Obstacle where
  /-- The file of a path has none. -/
  | file (path : String) (fault : Fault)
  /-- They cannot drive a run. -/
  | unfit (fault : Fault)
deriving DecidableEq, Repr

def Obstacle.message : Obstacle → String
  | file path f => "Configuration error: " ++ path ++ ": " ++ f.message
  | unfit f => "Invalid argument: " ++ f.message

/-- The settings of a file that has been read. -/
def ofFile (content : Except FileError String) : Except Fault Settings :=
  match content with
  | .ok text => parse text
  | .error e => .error (.file e)

/-- The settings of a file, or the standard ones if there is no file, with values in their place. -/
def assemble (file : Option (String × Except FileError String)) (o : Overrides) : Except Obstacle Settings := do
  let s ←
    match file with
    | none => .ok standard
    | some (path, content) => (ofFile content).mapError (.file path)
  ((s.override o).validate).mapError .unfit

end Settings

end Selenese
