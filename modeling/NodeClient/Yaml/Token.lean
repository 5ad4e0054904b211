import NodeClient.Yaml.Fault

/-!
Tokens of YAML. Block structure shows in tokens of its own: the start of a block sequence or mapping
where the indentation grows, and an end where it shrinks.
-/

namespace NodeClient.Yaml

inductive DirectiveValue where
  | yaml (major : Nat)
  | tag (handle start : Text)
  | other

inductive TokenKind where
  | directive (value : DirectiveValue)
  | documentStart
  | documentEnd
  | streamStart
  | streamEnd
  | blockSequenceStart
  | blockMappingStart
  | blockEnd
  | flowSequenceStart
  | flowMappingStart
  | flowSequenceEnd
  | flowMappingEnd
  | key
  | value
  | blockEntry
  | flowEntry
  | alias (name : Text)
  | anchor (name : Text)
  | tag (handle : Option Text) (suffix : Text)
  | scalar (text : Text) (plain : Bool)

structure Token where
  kind : TokenKind
  start : Mark
  stop : Mark

/-- The name of a token in a diagnostic. -/
def TokenKind.name : TokenKind → Text
  | .directive _ => "<directive>"
  | .documentStart => "<document start>"
  | .documentEnd => "<document end>"
  | .streamStart => "<stream start>"
  | .streamEnd => "<stream end>"
  | .blockSequenceStart => "<block sequence start>"
  | .blockMappingStart => "<block mapping start>"
  | .blockEnd => "<block end>"
  | .flowSequenceStart => "["
  | .flowMappingStart => [CodePoint.ofChar '{']
  | .flowSequenceEnd => "]"
  | .flowMappingEnd => [CodePoint.ofChar '}']
  | .key => "?"
  | .value => ":"
  | .blockEntry => "-"
  | .flowEntry => ","
  | .alias _ => "<alias>"
  | .anchor _ => "<anchor>"
  | .tag .. => "<tag>"
  | .scalar .. => "<scalar>"

/-- The tokens of a text that can be told apart before the first fault, and how the text goes wrong
after them. -/
structure Tokens where
  list : List Token
  stop : Option Stop

end NodeClient.Yaml
