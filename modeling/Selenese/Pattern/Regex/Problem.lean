/-!
# Selenese.Pattern.Regex.Problem

What can be wrong with the text of a regular expression, and its wording.
-/

namespace Selenese.Regex

inductive Problem where
  | unclosedGroup
  | unopenedGroup
  | badGroupName
  | repeatedGroupName
  | unclosedClass
  | badRange
  | badClassItem
  | missingOperand
  | badCount
  | badEscape
  | badNumber
  | unknownClass
  | badFlags
  | lookAround
  | backreference
  | beyondAscii
  | tooDeep
deriving DecidableEq, Repr

def Problem.message : Problem → String
  | unclosedGroup => "unclosed group"
  | unopenedGroup => "unopened group"
  | badGroupName => "invalid capture group name"
  | repeatedGroupName => "duplicate capture group name"
  | unclosedClass => "unclosed character class"
  | badRange => "invalid character class range"
  | badClassItem => "invalid escape sequence in character class"
  | missingOperand => "repetition operator missing expression"
  | badCount => "invalid repetition count"
  | badEscape => "unrecognized escape sequence"
  | badNumber => "invalid hexadecimal number"
  | unknownClass => "Unicode property not found"
  | badFlags => "invalid flags"
  | lookAround => "look-around is not supported"
  | backreference => "backreferences are not supported"
  | beyondAscii => "pattern can match text beyond ASCII where Unicode is off"
  | tooDeep => "expression is nested too deeply"

/-- Why a regular expression is refused. -/
inductive Error where
  | malformed (problem : Problem)
  | tooLarge
deriving DecidableEq, Repr

/-- The most bytes that a compiled expression may take. -/
def sizeLimit : Nat := 10485760

def Error.message : Error → String
  | malformed p => "regex parse error: " ++ p.message
  | tooLarge => "Compiled regex exceeds size limit of " ++ toString sizeLimit ++ " bytes."

end Selenese.Regex
