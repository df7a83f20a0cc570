/-!
# Selenese.Yaml.Problem

Why a text is not the YAML document that is asked for.
-/

namespace Selenese.Yaml

inductive Problem where
  /-- A character that a document cannot hold. -/
  | character
  /-- No token can stand here. -/
  | token
  /-- A tab where blanks would indent. -/
  | tab
  /-- A quoted text is not closed. -/
  | unclosed
  | escape
  /-- A key without its colon. -/
  | looseKey
  /-- A colon, a question mark or a hyphen where no entry can begin. -/
  | looseEntry
  | blockHeader
  | directive
  | anchor
  | tag
  /-- Tokens in an order that means nothing. -/
  | misplaced
  | unknownAlias
  | secondDocument
  /-- A field is given twice. -/
  | repeated (field : String)
  /-- Something else is asked for here. -/
  | expected (what : String)
deriving DecidableEq, Repr

def Problem.message : Problem → String
  | character => "control characters are not allowed"
  | token => "found character that cannot start any token"
  | tab => "found a tab character where an indentation space is expected"
  | unclosed => "found unexpected end of stream"
  | escape => "found unknown escape character"
  | looseKey => "could not find expected ':'"
  | looseEntry => "mapping values are not allowed in this context"
  | blockHeader => "did not find expected comment or line break"
  | directive => "malformed directive"
  | anchor => "did not find expected alphabetic or numeric character"
  | tag => "did not find expected tag URI"
  | misplaced => "did not find expected node content"
  | unknownAlias => "unknown anchor"
  | secondDocument => "deserializing from YAML containing more than one document is not supported"
  | repeated f => "duplicate field `" ++ f ++ "`"
  | expected w => "invalid type: expected " ++ w

end Selenese.Yaml
