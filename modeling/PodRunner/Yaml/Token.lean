import PodRunner.Yaml.Scalar
import PodRunner.Yaml.Tag

/-!
# Tokens

The pieces of a document. Indentation has become explicit: block collections begin and end with tokens of
their own, and every key of a mapping is announced by one.
-/

namespace PodRunner.Yaml

inductive Token where
  | version (major minor : Nat)
  | tagHandle (handle : List Char) (beginning : List UInt8)
  | documentStart
  | documentEnd
  | streamEnd
  | blockSequenceStart
  | blockMappingStart
  | blockEnd
  | flowSequenceStart
  | flowSequenceEnd
  | flowMappingStart
  | flowMappingEnd
  | blockEntry
  | flowEntry
  | key
  | value
  | aliasOf (name : List Char)
  | anchor (name : List Char)
  | tag (tag : Tag)
  | scalar (style : Style) (text : List Char)
deriving DecidableEq, Repr

end PodRunner.Yaml
