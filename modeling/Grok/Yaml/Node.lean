import Grok.Text.Basic

namespace Grok.Yaml

inductive Node where
  | scalar (text : Text) (plain : Bool) (tag : Option Text)
  | sequence (items : List Node)
  | mapping (entries : List (Node × Node))
  | reference (anchor : Nat)
deriving Repr, Inhabited

structure Document where
  root : Option Node
  anchored : List (Nat × Node) := []
deriving Repr, Inhabited

namespace Node

def quoted (t : Text) : Node := .scalar t false none

def absent : Node := .scalar [] true none

def isAbsent : Node → Bool
  | .scalar [] true _ => true
  | _ => false

def nullTag : Text := "tag:yaml.org,2002:null"

def isNullWord (t : Text) : Bool := t = "null" || t = "Null" || t = "NULL" || t = "~"

def resolve (anchored : List (Nat × Node)) : Node → Node
  | .reference anchor => (anchored.lookup anchor).getD .absent
  | node => node

end Node

end Grok.Yaml
