import Grok.Regex.Basic
import Grok.Report
import Grok.Text.Order

namespace Grok

structure Pattern where
  expression : Text
  regex : Regex

namespace Pattern

def source (p : Pattern) : Text := p.regex.source

def groups (p : Pattern) : List (Text × Nat) :=
  (p.regex.groups.map fun (index, name) => (name, index)).mergeSort fun a b => a.1.atMost b.1

def groupNames (p : Pattern) : List Text := p.groups.map (·.1)

def group? (p : Pattern) (name : Text) : Option Nat := p.groups.lookup name

def hasGroup (p : Pattern) (name : Text) : Bool := (p.group? name).isSome

def captures (p : Pattern) (line : Text) : Except Error (Option (List (Text × Text))) :=
  (p.regex.fields line).mapError .search

def isMatch (p : Pattern) (line : Text) : Except Error Bool :=
  (p.captures line).map Option.isSome

end Pattern

end Grok
