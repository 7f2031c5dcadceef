/-
**YAML tokens.**

The words of a document, and the marks of its layout: where a block begins and ends, and what is
a key.
-/
import TemplateEngine.Yaml.Cursor

set_option autoImplicit false

namespace TemplateEngine.Yaml

/-- What a node is declared to be. -/
inductive Declaration where
  /-- A type of the schema that all documents share. -/
  | standard (name : String)
  /-- Whatever a plain scalar with this text would be. -/
  | plain
  | other
  deriving DecidableEq, Repr

/-- The tokens of a document. -/
inductive Token where
  | documentStart
  | documentEnd
  | directive
  | streamEnd
  | blockSequenceStart
  | blockMappingStart
  | blockEnd
  | flowSequenceStart
  | flowSequenceEnd
  | flowMappingStart
  | flowMappingEnd
  | entry
  | separator
  | key
  | value
  | anchor (name : List Char)
  /-- The node of an anchor, once more. -/
  | reference (name : List Char)
  | declaration (d : Declaration)
  | scalar (isPlain : Bool) (text : List Char)
  deriving DecidableEq, Repr

end TemplateEngine.Yaml
