import Grok.Number.Shortest
import Grok.Text.Quoted

namespace Grok

structure Sample where
  value : Option Number
  labels : List (Text × Text)
deriving DecidableEq, Repr

namespace Sample

def label? (s : Sample) (name : Text) : Option Text := s.labels.lookup name

def toText (s : Sample) : Text :=
  let labels := s.labels.map fun (name, value) => name ++ "=" ++ value.quote
  let value :=
    match s.value with
    | none => []
    | some n => ' ' :: n.toText
  '{' :: Text.join "," labels ++ '}' :: value

end Sample

end Grok
