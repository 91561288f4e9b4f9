import Grok.Text.Basic

/-!
A placeholder stands for a pattern. Its body is the name of the pattern, or the name, a colon and
the name of the group that captures what the pattern matches.
-/

namespace Grok

def isWordChar (c : Char) : Bool := c.isAlphanum || c == '_'

def isGroupStart (c : Char) : Bool := c.isAlpha || c == '_'

def isPatternName (t : Text) : Bool := !t.isEmpty && t.all isWordChar

def isGroupName : Text → Bool
  | [] => false
  | c :: rest => isGroupStart c && rest.all isWordChar

structure Placeholder where
  name : Text
  group : Option Text
deriving DecidableEq, Repr

namespace Placeholder

def parse? (body : Text) : Option Placeholder :=
  let name := body.takeWhile (· != ':')
  match body.dropWhile (· != ':') with
  | [] => if isPatternName name then some ⟨name, none⟩ else none
  | _ :: group =>
    if isPatternName name && isGroupName group then some ⟨name, some group⟩ else none

def body (p : Placeholder) : Text :=
  match p.group with
  | none => p.name
  | some group => p.name ++ ':' :: group

def written (body : Text) : Text := '%' :: '{' :: body ++ ['}']

def wrap (p : Placeholder) (expanded : Text) : Text :=
  match p.group with
  | none => "(?:" ++ expanded ++ ")"
  | some group => "(?P<" ++ group ++ ">" ++ expanded ++ ")"

end Placeholder

end Grok
