import Grok.Regex.Linear.Expr

namespace Grok.Regex.Linear

inductive Inst where
  | chars (set : CharSet) (next : Nat)
  | look (look : Look) (next : Nat)
  | split (first second : Nat)
  | save (slot next : Nat)
  | accept
  | fail
deriving Repr, Inhabited

/-- A program. Group `n` notes its start in slot `2 * n` and its end in the slot after that. -/
structure Program where
  insts : Array Inst
  start : Nat
  slots : Nat
deriving Repr, Inhabited

namespace Program

abbrev Fragment := Array Inst × Nat

def add (insts : Array Inst) (inst : Inst) : Fragment := (insts.push inst, insts.size)

def branch (greedy : Bool) (inside outside : Nat) : Inst :=
  if greedy then .split inside outside else .split outside inside

def copies (build : Fragment → Fragment) : Nat → Fragment → Fragment
  | 0, f => f
  | n + 1, f => copies build n (build f)

def optionalCopies (build : Fragment → Fragment) (greedy : Bool) (exit : Nat) :
    Nat → Fragment → Fragment
  | 0, f => f
  | n + 1, f =>
    let (insts, body) := build f
    optionalCopies build greedy exit n (add insts (branch greedy body exit))

def repeatedOnce (build : Fragment → Fragment) (greedy : Bool) (f : Fragment) : Fragment :=
  let (insts, loop) := add f.1 .fail
  let (insts, body) := build (insts, loop)
  (insts.setIfInBounds loop (branch greedy body f.2), body)

/-- Puts an expression that is repeated any number of times before a state. If the expression may
match no character, the first repetition is entered by a split of its own. -/
def repeatedFreely (build : Fragment → Fragment) (greedy consumes : Bool) (f : Fragment) :
    Fragment :=
  if consumes then
    let (insts, loop) := add f.1 .fail
    let (insts, body) := build (insts, loop)
    (insts.setIfInBounds loop (branch greedy body f.2), loop)
  else
    let (insts, body) := repeatedOnce build greedy f
    add insts (branch greedy body f.2)

def build : Expr → Fragment → Fragment
  | .empty, f => f
  | .chars set, (insts, next) => add insts (.chars set next)
  | .look look, (insts, next) => add insts (.look look next)
  | .loop least most greedy body, f =>
    match most with
    | some most =>
      copies (build body) least (optionalCopies (build body) greedy f.2 (most - least) f)
    | none =>
      if least = 0 then repeatedFreely (build body) greedy body.consumes f
      else copies (build body) (least - 1) (repeatedOnce (build body) greedy f)
  | .group index _ body, (insts, next) =>
    let (insts, stop) := add insts (.save (2 * index + 1) next)
    let (insts, inner) := build body (insts, stop)
    add insts (.save (2 * index) inner)
  | .seq first second, f => build first (build second f)
  | .choice first second, (insts, next) =>
    let (insts, b) := build second (insts, next)
    let (insts, a) := build first (insts, next)
    add insts (.split a b)

def ofExpr (e : Expr) : Program :=
  let whole := Expr.group 0 none e
  let (insts, start) := build whole (#[.accept], 0)
  ⟨insts, start, 2 * (whole.groups.foldl (fun n group => max n group.1) 0) + 2⟩

end Program

end Grok.Regex.Linear
