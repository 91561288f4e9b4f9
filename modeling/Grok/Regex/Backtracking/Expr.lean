import Grok.Regex.Look

namespace Grok.Regex.Backtracking

inductive LookAround where
  | ahead
  | notAhead
  | behind
  | notBehind
deriving DecidableEq, Repr

inductive Expr where
  | empty
  | any (newline : Bool)
  | look (look : Look)
  | char (c : Char) (ignoreCase : Bool)
  | chars (source : Text) (ignoreCase : Bool)
  | seq (items : List Expr)
  | choice (alternatives : List Expr)
  | group (index : Nat) (body : Expr)
  | around (kind : LookAround) (body : Expr)
  | loop (least : Nat) (most : Option Nat) (greedy : Bool) (body : Expr)
  | backref (group : Nat)
  | atomic (body : Expr)
  /-- The match starts here. -/
  | keepOut
  | searchStart
  | captured (group : Nat)
  | conditional (condition yes no : Expr)
deriving Repr, Inhabited

namespace Expr

def isRepeatable : Expr → Bool
  | .empty | .look _ | .around .. => false
  | _ => true

def isEmpty : Expr → Bool
  | .empty => true
  | _ => false

def sequence : List Expr → Expr
  | [] => .empty
  | [e] => e
  | es => .seq es

def alternatives : List Expr → Expr
  | [] => .empty
  | [e] => e
  | es => .choice es

end Expr

end Grok.Regex.Backtracking
