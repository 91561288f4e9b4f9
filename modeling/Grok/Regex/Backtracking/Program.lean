import Grok.Regex.Backtracking.Shape
import Grok.Regex.Backtracking.Written
import Grok.Regex.Linear.Parser
import Grok.Regex.Linear.Program

/-!
Programs of the backtracking dialect. Easy parts of an expression become one state that runs a
program of the linear dialect, where no later choice can depend on how they matched.
-/

namespace Grok.Regex.Backtracking

inductive Inst where
  | any (newline : Bool) (next : Nat)
  | text (t : Text) (next : Nat)
  | look (look : Look) (next : Nat)
  | linear (program : Linear.Program) (groups : List Nat) (next : Nat)
  | split (first second : Nat)
  | save (slot next : Nat)
  | restore (slot next : Nat)
  | reset (counter next : Nat)
  | count (least : Nat) (most : Option Nat) (greedy : Bool) (counter body next : Nat)
  | countMoving (least : Nat) (greedy : Bool) (counter last body next : Nat)
  | goBack (count next : Nat)
  /-- Fails, and drops the branch to the given state with all branches that came after it. -/
  | failBefore (next : Nat)
  | backref (group next : Nat)
  | captured (group next : Nat)
  | mark (next : Nat)
  /-- Drops the branches that have been opened since the last mark. -/
  | cut (next : Nat)
  | searchStart (next : Nat)
  | accept
  | fail
deriving Repr, Inhabited

structure Program where
  insts : Array Inst
  start : Nat
  slots : Nat
deriving Repr, Inhabited

namespace Program

structure Draft where
  insts : Array Inst
  slots : Nat

abbrev Builder := StateT Draft Option

def add (inst : Inst) : Builder Nat :=
  modifyGet fun d => (d.insts.size, { d with insts := d.insts.push inst })

def replace (state : Nat) (inst : Inst) : Builder Unit :=
  modify fun d => { d with insts := d.insts.setIfInBounds state inst }

def newSlot : Builder Nat := modifyGet fun d => (d.slots, { d with slots := d.slots + 1 })

def branch (greedy : Bool) (inside outside : Nat) : Inst :=
  if greedy then .split inside outside else .split outside inside

def buildEasy (es : List Expr) (next : Nat) : Builder Nat :=
  if es.isEmpty then return next
  else
    match Expr.literalOfAll? es with
    | some t => add (.text t next)
    | none => do
      let e ← Linear.Expr.parse? (es.flatMap (·.written .alternative))
      add (.linear (.ofExpr e) (Expr.groupsOfAll es) next)

def buildLoop (least : Nat) (most : Option Nat) (greedy : Bool) (bodyLeast : Nat)
    (body : Nat → Builder Nat) (next : Nat) : Builder Nat := do
  if least = 0 && most = some 1 then
    add (branch greedy (← body next) next)
  else
    let loop ← add .fail
    let inner ← body loop
    if most = none && bodyLeast = 0 then
      let counter ← newSlot
      let last ← newSlot
      replace loop (.countMoving least greedy counter last inner next)
      add (.reset counter loop)
    else if most = none && least = 0 then
      replace loop (branch greedy inner next)
      return loop
    else if most = none && least = 1 then
      replace loop (branch greedy inner next)
      return inner
    else
      let counter ← newSlot
      replace loop (.count least most greedy counter inner next)
      add (.reset counter loop)

def buildAround (kind : LookAround) (shape : Shape) (body : Nat → Builder Nat) (next : Nat) :
    Builder Nat := do
  let isBehind := kind == .behind || kind == .notBehind
  if isBehind && !shape.isFixed then failure
  let enter (state : Nat) : Builder Nat :=
    if isBehind then add (.goBack shape.least state) else return state
  match kind with
  | .ahead | .behind =>
    let slot ← newSlot
    let inner ← body (← add (.restore slot next))
    add (.save slot (← enter inner))
  | .notAhead | .notBehind =>
    let inner ← body (← add (.failBefore next))
    add (.split (← enter inner) next)

mutual

/-- Puts an expression before a state. In a context that is hard, something that follows may need
another match of the expression, so that only single parts of it are easy. -/
def build (referenced : List Nat) (hard : Bool) (e : Expr) (next : Nat) : Builder Nat := do
  let shape := e.shape referenced
  if !hard && !shape.isHard then buildEasy [e] next
  else
    match e with
    | .empty => return next
    | .any newline => add (.any newline next)
    | .char c fold => if fold then buildEasy [.char c fold] next else add (.text [c] next)
    | .chars source fold => buildEasy [.chars source fold] next
    | .look look => add (.look look next)
    | .keepOut => add (.save 0 next)
    | .searchStart => add (.searchStart next)
    | .backref group => add (.backref group next)
    | .captured group => add (.captured group next)
    | .group index body =>
      let stop ← add (.save (2 * index + 1) next)
      add (.save (2 * index) (← build referenced hard body stop))
    | .atomic body => do
      add (.mark (← build referenced false body (← add (.cut next))))
    | .choice alternatives => buildAny referenced hard alternatives next
    | .seq items =>
      let shapes := items.map (Expr.shape referenced)
      let isEnd (s : Shape) : Bool := s.isFixed && !s.isHard
      let head := (shapes.takeWhile isEnd).length
      let tail := ((shapes.drop head).reverse.takeWhile
        fun s => if hard then isEnd s else !s.isHard).length
      let middle := items.length - head - tail
      let next ← buildEasy (items.drop (head + middle)) next
      let next ← buildSome referenced head middle items next
      buildEasy (items.take head) next
    | .loop least most greedy body =>
      let isOption := least = 0 && most = some 1
      let bodyHard := hard || (!isOption && shape.isHard)
      buildLoop least most greedy (body.shape referenced).least
        (fun next => build referenced bodyHard body next) next
    | .around kind (.choice alternatives) =>
      let inner := Expr.shapeOfAny referenced alternatives
      if kind == .behind && !inner.isFixed then buildAnyBehind referenced alternatives next
      else if kind == .notBehind && !inner.isFixed then
        buildNoneBehind referenced alternatives next
      else if inner.isHard then
        buildAround kind inner (fun next => buildAny referenced false alternatives next) next
      else buildAround kind inner (fun next => buildEasy [.choice alternatives] next) next
    | .around kind body =>
      buildAround kind (body.shape referenced)
        (fun next => build referenced false body next) next
    | .conditional condition yes no =>
      let yes ← build referenced hard yes next
      let condition ← build referenced hard condition (← add (.cut yes))
      let no ← build referenced hard no next
      add (.mark (← add (.split condition no)))

def buildSome (referenced : List Nat) (skipped count : Nat) (es : List Expr) (next : Nat) :
    Builder Nat :=
  match skipped, count, es with
  | _, 0, _ | _, _, [] => return next
  | skipped + 1, count, _ :: es => buildSome referenced skipped count es next
  | 0, count + 1, e :: es => do
    build referenced true e (← buildSome referenced 0 count es next)

def buildAny (referenced : List Nat) (hard : Bool) (es : List Expr) (next : Nat) : Builder Nat :=
  match es with
  | [] => return next
  | [e] => build referenced hard e next
  | e :: es => do
    let others ← buildAny referenced hard es next
    add (.split (← build referenced hard e next) others)

def buildAnyBehind (referenced : List Nat) (es : List Expr) (next : Nat) : Builder Nat :=
  match es with
  | [] => return next
  | [e] =>
    buildAround .behind (e.shape referenced) (fun next => build referenced false e next) next
  | e :: es => do
    let others ← buildAnyBehind referenced es next
    let inner ← buildAround .behind (e.shape referenced)
      (fun next => build referenced false e next) next
    add (.split inner others)

def buildNoneBehind (referenced : List Nat) (es : List Expr) (next : Nat) : Builder Nat :=
  match es with
  | [] => return next
  | e :: es => do
    let others ← buildNoneBehind referenced es next
    buildAround .notBehind (e.shape referenced) (fun next => build referenced false e next) others

end

def ofExpr? (e : Expr) (groups : Nat) (referenced : List Nat) : Option Program := do
  let whole : Builder Nat := do
    let stop ← add (.save 1 (← add .accept))
    let start ← add (.save 0 (← build referenced true e stop))
    let loop ← add .fail
    replace loop (.split start (← add (.any true loop)))
    return loop
  let (start, draft) ← whole.run ⟨#[], 2 * (groups + 1)⟩
  some ⟨draft.insts, start, draft.slots⟩

end Program

end Grok.Regex.Backtracking
