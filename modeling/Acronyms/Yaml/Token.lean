/-!
# Tokens of YAML

Besides the marks that are written, the tokens hold the structure that indentation
expresses: where a block sequence or mapping begins and where it ends, and which
nodes are keys.
-/

set_option autoImplicit false

namespace Acronyms.Yaml

/-- A token. -/
inductive Token where
  /-- `%YAML`, with its version. -/
  | versionDirective (major minor : Nat)
  /-- `%TAG`: a handle and what it abbreviates. -/
  | tagDirective (handle expansion : String)
  /-- `---` -/
  | documentStart
  /-- `...` -/
  | documentEnd
  | blockSequenceStart
  | blockMappingStart
  | blockEnd
  | flowSequenceStart
  | flowSequenceEnd
  | flowMappingStart
  | flowMappingEnd
  /-- `-` before an item. -/
  | blockEntry
  /-- `,` between items. -/
  | flowEntry
  /-- What follows is a key. -/
  | key
  /-- What follows is a value. -/
  | value
  /-- `*name` -/
  | alias (name : String)
  /-- `&name` -/
  | anchor (name : String)
  /-- `!suffix`, `!handle!suffix` or `!<suffix>`. -/
  | tag (handle suffix : String)
  /-- A scalar, and whether it is plain: neither quoted nor a block. -/
  | scalar (text : String) (plain : Bool)
  deriving DecidableEq, Repr

end Acronyms.Yaml
