import Grok.Regex.Backtracking.Expr

namespace Grok.Regex.Backtracking

structure Shape where
  least : Nat
  isFixed : Bool
  isHard : Bool
deriving DecidableEq, Repr

namespace Shape

def andThen (s t : Shape) : Shape :=
  ⟨s.least + t.least, s.isFixed && t.isFixed, s.isHard || t.isHard⟩

def orElse (s t : Shape) : Shape :=
  ⟨min s.least t.least, s.isFixed && t.isFixed && s.least == t.least, s.isHard || t.isHard⟩

end Shape

def isHardLook : Look → Bool
  | .word _ | .asciiWord _ => true
  | _ => false

namespace Expr

mutual

/-- The shape of an expression, some of whose groups are referred to. A group that is referred to is
hard, because another match of its body may be needed later. -/
def shape (referenced : List Nat) : Expr → Shape
  | .empty => ⟨0, true, false⟩
  | .any _ | .char .. | .chars .. => ⟨1, true, false⟩
  | .look assertion => ⟨0, true, isHardLook assertion⟩
  | .seq items => shapeOfAll referenced items
  | .choice alternatives => shapeOfAny referenced alternatives
  | .group index body =>
    let s := body.shape referenced
    { s with isHard := s.isHard || referenced.contains index }
  | .around .. | .keepOut | .searchStart | .captured _ => ⟨0, true, true⟩
  | .loop least most _ body =>
    let s := body.shape referenced
    ⟨s.least * least, s.isFixed && most == some least, s.isHard⟩
  | .backref _ => ⟨0, false, true⟩
  | .atomic body => { body.shape referenced with isHard := true }
  | .conditional condition yes no =>
    let taken := (condition.shape referenced).andThen (yes.shape referenced)
    let other := no.shape referenced
    ⟨(condition.shape referenced).least + min (yes.shape referenced).least other.least,
      taken.isFixed && other.isFixed && taken.least == other.least, true⟩

def shapeOfAll (referenced : List Nat) : List Expr → Shape
  | [] => ⟨0, true, false⟩
  | e :: es => (e.shape referenced).andThen (shapeOfAll referenced es)

def shapeOfAny (referenced : List Nat) : List Expr → Shape
  | [] => ⟨0, true, false⟩
  | [e] => e.shape referenced
  | e :: es => (e.shape referenced).orElse (shapeOfAny referenced es)

end

mutual

def literal? : Expr → Option Text
  | .char c false => some [c]
  | .seq items => literalOfAll? items
  | _ => none

def literalOfAll? : List Expr → Option Text
  | [] => some []
  | e :: es => do return (← e.literal?) ++ (← literalOfAll? es)

end

mutual

def groups : Expr → List Nat
  | .seq items => groupsOfAll items
  | .choice alternatives => groupsOfAll alternatives
  | .group index body => index :: body.groups
  | .around _ body | .loop _ _ _ body | .atomic body => body.groups
  | .conditional condition yes no => condition.groups ++ yes.groups ++ no.groups
  | _ => []

def groupsOfAll : List Expr → List Nat
  | [] => []
  | e :: es => e.groups ++ groupsOfAll es

end

end Expr

end Grok.Regex.Backtracking
