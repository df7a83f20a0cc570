/-!
# Selenese.Arguments

The grammar of the command line.

* A command line has switches that count or turn something on, a command, and the settings of the command. Switches may
  stand before the command and after it.
* Words are read from left to right, and the first thing that is wrong is told. A value is looked at when the next
  option is read or the line ends: a word that is unknown is told before the value in front of it.
* `parse` gives the invocation that a command line means, or why it means none.
-/

namespace Selenese

namespace Arguments

/-- The command whose words are read. -/
inductive Level where
  | top
  | dryRun
  | commands
  | help
deriving DecidableEq, Repr

/-- An option without a value. -/
inductive Switch where
  | verbose
  | quiet
  | help
  | version
deriving DecidableEq, Repr

/-- An option with a value. -/
inductive Setting where
  | suite
  | baseUrl
  | combination
  | name
  | output
  | config
deriving DecidableEq, Repr

inductive Choice where
  | switch (s : Switch)
  | setting (s : Setting)
deriving DecidableEq, Repr

/-- Why a command line means no invocation. -/
inductive Stop where
  /-- Help was asked for. -/
  | help (level : Level)
  | version
  /-- Nothing was given at all. -/
  | nothing
  | noCommand
  | unknownCommand (word : String)
  | unknownArgument (word : String)
  /-- A setting has no value, or an empty one where a path is due. -/
  | noValue (setting : Setting)
  /-- A switch has a value. -/
  | unwantedValue (value : String)
  /-- What may be given once is given again. -/
  | repeated (choice : Choice)
  | noSuite
deriving DecidableEq, Repr

/-! ## Names -/

def Level.command? : Level → String → Option Level
  | .top, "dry-run" => some .dryRun
  | .top, "commands" => some .commands
  | .top, "help" => some .help
  | _, _ => none

def Level.hasCommands (l : Level) : Bool := l = .top

def Level.switches (l : Level) : List (String × Char × Switch) :=
  [("verbose", 'v', .verbose), ("quiet", 'q', .quiet), ("help", 'h', .help)] ++
    if l = .top then [("version", 'V', .version)] else []

/-- The settings of a command; not every one has a letter. -/
def Level.settings : Level → List (String × Option Char × Setting)
  | .dryRun => [
    ("suite", some 's', .suite), ("base-url", some 'b', .baseUrl), ("combo", some 'c', .combination),
    ("name", some 'n', .name), ("output", some 'o', .output), ("config", none, .config)]
  | _ => []

def Level.named? (l : Level) (name : String) : Option Choice :=
  ((l.switches.find? (·.1 = name)).map fun s => .switch s.2.2) <|>
    ((l.settings.find? (·.1 = name)).map fun s => .setting s.2.2)

def Level.lettered? (l : Level) (c : Char) : Option Choice :=
  ((l.switches.find? (·.2.1 = c)).map fun s => .switch s.2.2) <|>
    ((l.settings.find? (·.2.1 = some c)).map fun s => .setting s.2.2)

def Setting.isPath : Setting → Bool
  | suite | output | config => true
  | _ => false

def Setting.mayRepeat : Setting → Bool
  | combination => true
  | _ => false

/-! ## Words -/

inductive Word where
  /-- Two hyphens: no word after them is an option. -/
  | escape
  | long (name : String) (value : Option String)
  /-- One hyphen and letters. -/
  | letters (cs : List Char)
  | plain
deriving DecidableEq, Repr

def Word.ofString (w : String) : Word :=
  match w.toList with
  | ['-', '-'] => .escape
  | '-' :: '-' :: r =>
    let name := String.ofList (r.takeWhile (· ≠ '='))
    match r.dropWhile (· ≠ '=') with
    | [] => .long name none
    | _ :: value => .long name (some (String.ofList value))
  | '-' :: c :: r => .letters (c :: r)
  | _ => .plain

/-! ## What is given -/

/-- What has been given for one command. -/
structure Given where
  verbose : Nat
  quiet : Bool
  values : List (Setting × String)
  /-- The last setting, if it is not among the values yet, with its value if that has been read. -/
  pending : Option (Setting × Option String)
deriving DecidableEq, Repr

namespace Given

def empty : Given := ⟨0, false, [], none⟩

/-- The setting whose value is the next word. -/
def awaited? (g : Given) : Option Setting :=
  match g.pending with
  | some (s, none) => some s
  | _ => none

def value? (g : Given) (s : Setting) : Option String := g.values.lookup s

def put (s : Setting) (value : String) (g : Given) : Except Stop Given :=
  if !s.mayRepeat && (g.value? s).isSome then .error (.repeated (.setting s))
  else if s.isPath && value = "" then .error (.noValue s)
  else .ok { g with values := g.values ++ [(s, value)] }

/-- Takes in the value of the last setting. -/
def settle (g : Given) : Except Stop Given :=
  match g.pending with
  | none => .ok g
  | some (s, none) => .error (.noValue s)
  | some (s, some value) => { g with pending := none }.put s value

/-- Begins a setting, whose value is the next word unless it is attached. -/
def begin (s : Setting) (attached : Option String) (g : Given) : Except Stop Given := do
  let g ← g.settle
  match attached with
  | some value => g.put s value
  | none => return { g with pending := some (s, none) }

/-- The most that a switch counts to. -/
def most : Nat := 255

def turnOn (level : Level) (s : Switch) (g : Given) : Except Stop Given := do
  let g ← g.settle
  match s with
  | .verbose => return { g with verbose := min most (g.verbose + 1) }
  | .quiet => if g.quiet then throw (.repeated (.switch .quiet)) else return { g with quiet := true }
  | .help => throw (.help level)
  | .version => throw .version

/-- The value that follows a letter in one word, with or without an equals sign. -/
def attachedTo : List Char → Option String
  | [] => none
  | '=' :: r => some (String.ofList r)
  | r => some (String.ofList r)

/-- Reads the letters after a hyphen: switches up to a setting, whose value is the rest. -/
def takeLetters (level : Level) : List Char → Given → Except Stop Given
  | [], g => .ok g
  | c :: r, g =>
    match level.lettered? c with
    | none => .error (.unknownArgument (String.ofList ['-', c]))
    | some (.setting s) => g.begin s (attachedTo r)
    | some (.switch s) => do takeLetters level r (← g.turnOn level s)

def takeLong (level : Level) (name : String) (value : Option String) (g : Given) : Except Stop Given :=
  match level.named? name, value with
  | none, _ => .error (.unknownArgument ("--" ++ name))
  | some (.setting s), value => g.begin s value
  | some (.switch _), some value => .error (.unwantedValue value)
  | some (.switch s), none => g.turnOn level s

end Given

/-! ## Reading -/

/-- A word that stands where a command or nothing is due. Behind an escape, the name of a command is no command. -/
def misplaced (level : Level) (escaped : Bool) (word : String) : Stop :=
  if !level.hasCommands || (escaped && (level.command? word).isSome) then .unknownArgument word
  else .unknownCommand word

/-- Reads the words of a command; a command within it ends them. -/
def readWords (level : Level) : List String → Given → Except Stop (Given × Option (Level × List String))
  | [], g => do return (← g.settle, none)
  | w :: rest, g =>
    match g.awaited?, level.command? w, Word.ofString w with
    | none, some inner, _ => do return (← g.settle, some (inner, rest))
    | _, _, .escape =>
      match rest with
      | [] => do return (← g.settle, none)
      | word :: _ => .error (misplaced level true word)
    | _, _, .long name value => do readWords level rest (← g.takeLong level name value)
    | _, _, .letters cs => do readWords level rest (← g.takeLetters level cs)
    | some s, _, .plain => readWords level rest { g with pending := some (s, some w) }
    | none, none, .plain => .error (misplaced level false w)

/-- The help for a command that is named by a path. -/
def helpOn (level : Level) : List String → Stop
  | [] => .help level
  | w :: rest =>
    match level.command? w with
    | some inner => helpOn inner rest
    | none => .unknownCommand w

end Arguments

/-! ## Invocations -/

/-- What a dry run is told. -/
structure DryRun where
  suite : String
  baseUrl : Option String
  combinations : List String
  name : Option String
  output : Option String
  config : Option String
deriving DecidableEq, Repr

inductive Request where
  | commands
  | dryRun (run : DryRun)
deriving DecidableEq, Repr

structure Invocation where
  /-- The count of the verbose switch. -/
  verbose : Nat
  quiet : Bool
  request : Request
deriving DecidableEq, Repr

namespace Arguments

/-- The dry run that settings mean. A configuration that is named by the environment counts if none is given. -/
def dryRunOf (environmentConfig : Option String) (g : Given) : Except Stop DryRun := do
  let g ←
    match g.value? .config, environmentConfig with
    | none, some path => g.put .config path
    | _, _ => .ok g
  match g.value? .suite with
  | none => throw .noSuite
  | some suite =>
    return {
      suite
      baseUrl := g.value? .baseUrl
      combinations := (g.values.filter (·.1 = .combination)).map (·.2)
      name := g.value? .name
      output := g.value? .output
      config := g.value? .config }

/-- Reads the words of a command after those before it. The count that is given after the command wins. -/
def invocation (environmentConfig : Option String) (outer : Given) (level : Level) (words : List String) :
    Except Stop Invocation := do
  if level = .help then throw (helpOn .top words)
  let (g, _) ← readWords level words .empty
  let request ← if level = .dryRun then (dryRunOf environmentConfig g).map .dryRun else pure .commands
  return ⟨if g.verbose = 0 then outer.verbose else g.verbose, outer.quiet || g.quiet, request⟩

/-- The invocation that a command line means. -/
def parse (environmentConfig : Option String) (words : List String) : Except Stop Invocation := do
  match ← readWords .top words .empty with
  | (g, some (level, rest)) => invocation environmentConfig g level rest
  | (g, none) => throw (if g.verbose = 0 && !g.quiet then .nothing else .noCommand)

end Arguments

end Selenese
