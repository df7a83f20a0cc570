import Selenese.Program
import Std.Time.Zoned

/-!
# Selenese.Main

The program on a disk: it reads files, the environment and the clock, and leaves the rest to `Program.run`.
-/

namespace Selenese.Main

/-- An error of the operating system, by its number. Some calls tell the number with its sign turned. -/
def fileError (e : IO.Error) : FileError :=
  match (errorNumber? e).map fun n => min n (0 - n) with
  | some 2 => .notFound
  | some 13 => .denied
  | some 20 => .notDirectory
  | some 21 => .isDirectory
  | some 36 => .nameTooLong
  | _ => .other e.toString
where
  errorNumber? : IO.Error → Option UInt32
    | .noFileOrDirectory _ n _ => some n
    | .permissionDenied _ n _ => some n
    | .inappropriateType _ n _ => some n
    | .invalidArgument _ n _ => some n
    | .otherError n _ => some n
    | _ => none

def read (path : String) : IO (Except FileError String) := do
  try
    match String.fromUTF8? (← IO.FS.readBinFile path) with
    | some text => return .ok text
    | none => return .error .notText
  catch e => return .error (fileError e)

def write (path text : String) : IO (Except FileError Unit) := do
  try
    IO.FS.writeFile path text
    return .ok ()
  catch e => return .error (fileError e)

/-- The values of the environment variables that the program asks for. -/
def environmentValues : IO (List (String × String)) := do
  let names := ["USER", "USERNAME", "USERDOMAIN", "LANG", Program.configVariable]
  let values ← names.mapM fun n => do return (← IO.getEnv n).map fun v => (n, v)
  return values.filterMap id

def machine : IO String := do
  match ← read "/proc/sys/kernel/hostname" with
  | .ok name => return name.trimAscii.toString
  | .error _ => return "localhost"

def folder : IO String := do
  try return (← IO.currentDir).toString catch _ => return ""

/-- A number with leading zeros. -/
def padded (width : Nat) (n : Int) : String :=
  let digits := toString n
  "".pushn '0' (width - digits.length) ++ digits

def now : IO Stamp := do
  let t ← Std.Time.DateTime.now
  return {
    date := padded 4 t.year ++ "-" ++ padded 2 t.month.val ++ "-" ++ padded 2 t.day.val
    time := padded 2 t.hour.val ++ ":" ++ padded 2 t.minute.val ++ ":" ++ padded 2 t.second.val }

def surroundings : IO (Surroundings IO) := do
  let known ← environmentValues
  return {
    read
    write
    environment := fun n => known.lookup n
    host := ⟨"linux x86_64", "unix", ← folder, ← machine⟩
    now := ← now }

end Selenese.Main

/-- Runs the program with the words of its command line. -/
def main (words : List String) : IO UInt32 := do
  let e ← Selenese.Program.run (← Selenese.Main.surroundings) words
  IO.print e.output
  IO.eprint e.notices
  return e.exitCode.toUInt32
