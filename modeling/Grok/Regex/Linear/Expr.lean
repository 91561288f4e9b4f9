import Grok.Regex.Look

namespace Grok.Regex.Linear

inductive Expr where
  | empty
  | chars (set : CharSet)
  | look (look : Look)
  | loop (least : Nat) (most : Option Nat) (greedy : Bool) (body : Expr)
  | group (index : Nat) (name : Option Text) (body : Expr)
  | seq (first second : Expr)
  | choice (first second : Expr)
deriving Repr, Inhabited

namespace Expr

def consumes : Expr → Bool
  | .empty | .look _ => false
  | .chars set => !set.ranges.isEmpty
  | .loop least _ _ body => least ≠ 0 && body.consumes
  | .group _ _ body => body.consumes
  | .seq first second => first.consumes || second.consumes
  | .choice first second => first.consumes && second.consumes

def isEmptyOnly : Expr → Bool
  | .empty | .look _ => true
  | .chars _ => false
  | .loop _ most _ body => most = some 0 || body.isEmptyOnly
  | .group _ _ body => body.isEmptyOnly
  | .seq first second => first.isEmptyOnly && second.isEmptyOnly
  | .choice first second => first.isEmptyOnly && second.isEmptyOnly

/-- A loop. What matches no character is not repeated, and what is repeated no time is empty. -/
def repeated (least : Nat) (most : Option Nat) (greedy : Bool) (body : Expr) : Expr :=
  let (least, most) :=
    if body.isEmptyOnly then (min least 1, some ((most.map (min 1)).getD 1)) else (least, most)
  if least = 0 && most = some 0 then .empty
  else if least = 1 && most = some 1 then body
  else .loop least most greedy body

def groups : Expr → List (Nat × Option Text)
  | .empty | .chars _ | .look _ => []
  | .loop _ _ _ body => body.groups
  | .group index name body => (index, name) :: body.groups
  | .seq first second => first.groups ++ second.groups
  | .choice first second => first.groups ++ second.groups

def room : Expr → Nat
  | .empty => 32
  | .chars set => 32 + 40 * set.ranges.size
  | .look _ => 32
  | .loop least most _ body =>
    match most with
    | none => 64 + max least 1 * body.room
    | some most => 32 + max least most * (36 + body.room)
  | .group _ _ body => 64 + body.room
  | .seq first second => first.room + second.room
  | .choice first second => 40 + first.room + second.room

def maxRoom : Nat := 10485760

end Expr

end Grok.Regex.Linear
