/-!
# Selenese.FileError

Why a file cannot be read or written, in the words of the operating system.
-/

namespace Selenese

inductive FileError where
  | notFound
  | denied
  | isDirectory
  | notDirectory
  | nameTooLong
  /-- The path holds a NUL character. -/
  | badPath
  /-- The content is no UTF-8 text. -/
  | notText
  | other (message : String)
deriving DecidableEq, Repr

def FileError.message : FileError → String
  | notFound => "No such file or directory (os error 2)"
  | denied => "Permission denied (os error 13)"
  | isDirectory => "Is a directory (os error 21)"
  | notDirectory => "Not a directory (os error 20)"
  | nameTooLong => "File name too long (os error 36)"
  | badPath => "file name contained an unexpected NUL byte"
  | notText => "stream did not contain valid UTF-8"
  | other m => m

end Selenese
