import Grok.Text.Basic

namespace Grok.Yaml

inductive Token where
  | version (major minor : Nat)
  | handle (handle start : Text)
  | documentStart
  | documentEnd
  | blockSequence
  | blockMapping
  | blockEnd
  | flowSequence
  | flowSequenceEnd
  | flowMapping
  | flowMappingEnd
  | blockEntry
  | flowEntry
  | key
  | value
  | reference (anchor : Text)
  | anchor (anchor : Text)
  | tag (handle suffix : Text)
  | scalar (text : Text) (plain : Bool)
deriving DecidableEq, Repr

end Grok.Yaml
