import Selenese.Text.Affix

/-!
# Selenese.Report.Environment

The host that a report was made on.
-/

namespace Selenese.Report

structure Environment where
  formatVersion : String
  runtime : String
  system : String
  platform : String
  folder : String
  machine : String
  user : String
  domain : String
  culture : String
deriving DecidableEq, Repr

/-- What a host tells about itself. -/
structure Host where
  system : String
  platform : String
  folder : String
  machine : String
deriving DecidableEq, Repr

namespace Environment

def standardCulture : String := "en-US"

/-- The culture of a locale: what stands before its encoding and modifier, with hyphens. The locales without a
language have the standard culture. -/
def cultureOfLocale (locale : Option String) : String :=
  let tag := String.ofList ((locale.getD "").toList.takeWhile fun c => c ≠ '.' && c ≠ '@')
  if tag = "" ∨ tag = "C" ∨ tag = "POSIX" then standardCulture
  else tag.map fun c => if c = '_' then '-' else c

/-- Describes a host by what it tells and by its environment variables. -/
def capture (host : Host) (lookup : String → Option String) : Environment where
  formatVersion := "0.4.0"
  runtime := "rust"
  system := host.system
  platform := host.platform
  folder := host.folder
  machine := host.machine
  user := ((lookup "USER") <|> (lookup "USERNAME")).getD ""
  domain := (lookup "USERDOMAIN").getD host.machine
  culture := cultureOfLocale (lookup "LANG")

end Environment

end Selenese.Report
