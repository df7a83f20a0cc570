import Selenese.Locator

/-!
# Selenese.Session.Error

Errors of a page session, their wording and their weight: a missing element or a failed check is soft, it
speaks about the page and not about the session.
-/

namespace Selenese

inductive SessionError where
  | noSuchElement (locator : String)
  | assertionFailed (message : String)
  | unsupported (capability : String)
  | backend (message : String)
  | wrapped (context : String) (source : SessionError)
deriving DecidableEq, Repr, Inhabited

namespace SessionError

def message : SessionError → String
  | noSuchElement l => "Unable to locate element: " ++ l
  | assertionFailed m => "Assertion failed: " ++ m
  | unsupported c => "Capability not supported: " ++ c
  | backend m => "Backend error: " ++ m
  | wrapped c e => c ++ ": " ++ e.message

def ofLocator (l : Locator) : SessionError := noSuchElement l.display

def stale (handle : String) : SessionError := backend ("stale element reference: " ++ handle)

def scriptsUnavailable : SessionError := unsupported "script execution"

def isNotFound : SessionError → Bool
  | noSuchElement _ => true
  | _ => false

/-- A missing element or a failed check, not wrapped. -/
def isPlainSoft : SessionError → Bool
  | noSuchElement _ | assertionFailed _ => true
  | _ => false

/-- Soft errors may stand under one wrapper, not under two. -/
def isSoft : SessionError → Bool
  | wrapped _ e => e.isPlainSoft
  | e => e.isPlainSoft

/-- The error without its outermost wrapper. -/
def unwrap : SessionError → SessionError
  | wrapped _ e => e
  | e => e

/-- The texts of the errors under the wrappers, from the outside in. -/
def causes : SessionError → List String
  | wrapped _ e => e.message :: e.causes
  | _ => []

end SessionError

end Selenese
