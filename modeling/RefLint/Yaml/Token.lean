import RefLint.Yaml.Tag

/-!
# Tokens of a YAML text
-/

namespace RefLint.Yaml

set_option autoImplicit false

/-- Only a plain scalar can be anything else than a string. -/
inductive ScalarStyle where
  | plain | quoted | block
  deriving DecidableEq

inductive Token where
  | streamEnd
  | directive (directive : Directive)
  | documentStart | documentEnd
  | blockSequenceStart | blockMappingStart | blockEnd
  | flowSequenceStart | flowSequenceEnd | flowMappingStart | flowMappingEnd
  | blockEntry | flowEntry
  | key | value
  | aliasOf (name : String)
  | anchor (name : String)
  | tag (tag : WrittenTag)
  | scalar (text : String) (style : ScalarStyle)

end RefLint.Yaml
