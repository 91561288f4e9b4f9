import Grok.Regex.Linear.Class
import Grok.Regex.Linear.Expr

namespace Grok.Regex.Linear

structure Item where
  expr : Expr
  height : Nat := 0
  isSwitch : Bool := false

inductive GroupKind where
  | capturing (index : Nat) (name : Option Text)
  | plain

structure Frame where
  kind : GroupKind
  flags : Flags
  choices : List Item
  items : List Item

/-- What has been read: the flags in force, the groups, the open groups, and in the innermost one
the alternatives and the items of the last alternative, in reverse. -/
structure Reading where
  flags : Flags := {}
  groups : Nat := 0
  names : List Text := []
  frames : List Frame := []
  choices : List Item := []
  items : List Item := []

def maxHeight : Nat := 250

def sequence : List Item → Item
  | [] => ⟨.empty, 0, false⟩
  | [item] => item
  | items =>
    ⟨items.foldl (fun rest item => .seq item.expr rest) .empty,
      1 + items.foldl (fun h item => max h item.height) 0, false⟩

def alternatives : List Item → Item
  | [] => ⟨.empty, 0, false⟩
  | [item] => item
  | last :: items =>
    ⟨items.foldl (fun rest item => .choice item.expr rest) last.expr,
      1 + (last :: items).foldl (fun h item => max h item.height) 0, false⟩

namespace Reading

def push (r : Reading) (item : Item) : Reading := { r with items := item :: r.items }

def pushExpr (r : Reading) (expr : Expr) : Reading := r.push ⟨expr, 0, false⟩

def body (r : Reading) : Item := alternatives (sequence r.items :: r.choices)

def alternate (r : Reading) : Reading :=
  { r with choices := sequence r.items :: r.choices, items := [] }

def enter (r : Reading) (kind : GroupKind) (flags : Flags) : Reading :=
  { r with
    frames := ⟨kind, r.flags, r.choices, r.items⟩ :: r.frames
    flags := flags, choices := [], items := [] }

def leave? (r : Reading) : Option Reading :=
  match r.frames with
  | [] => none
  | frame :: frames =>
    let body := r.body
    let expr :=
      match frame.kind with
      | .capturing index name => .group index name body.expr
      | .plain => body.expr
    some { r with
      frames := frames, flags := frame.flags, choices := frame.choices
      items := ⟨expr, body.height + 1, false⟩ :: frame.items }

def repeatLast? (r : Reading) (least : Nat) (most : Option Nat) (lazy : Bool) : Option Reading :=
  match r.items with
  | [] => none
  | item :: items =>
    if item.isSwitch then none
    else
      let greedy := lazy == r.flags.swapGreed
      some { r with
        items := ⟨.repeated least most greedy item.expr, item.height + 1, false⟩ :: items }

end Reading

def literalExpr (flags : Flags) (c : Char) : Expr :=
  if !flags.ignoreCase then .chars (.singleton c)
  else if flags.unicode then
    .chars (if Unicode.CaseFold.hasVariant c then Unicode.CaseFold.close (.singleton c)
      else .singleton c)
  else .chars (closeAscii (.singleton c))

def primitiveExpr (flags : Flags) : Primitive → Option Expr
  | .literal c isByte =>
    if !flags.unicode && isByte && 128 ≤ c.toNat then none else some (literalExpr flags c)
  | .perl letter negated => (perlClass flags letter negated).map .chars
  | .unicode set negated => (foldAndNegate flags negated set).map .chars
  | .look look => some (.look look)

def dotExpr (flags : Flags) : Option Expr :=
  if !flags.unicode then none
  else if flags.dotAll then some (.chars .full)
  else if flags.crlf then some (.chars (CharSet.ofTable "A D").compl)
  else some (.chars (CharSet.ofTable "A").compl)

def caretExpr (flags : Flags) : Expr :=
  .look (if !flags.multiLine then .textStart else if flags.crlf then .lineStartCR else .lineStart)

def dollarExpr (flags : Flags) : Expr :=
  .look (if !flags.multiLine then .textEnd else if flags.crlf then .lineEndCR else .lineEnd)

def isNameChar (first : Bool) (c : Char) : Bool :=
  if first then c = '_' || Unicode.Property.isAlphabetic c
  else c = '_' || c = '.' || c = '[' || c = ']' || Unicode.Property.isAlphanumeric c

def groupName? (t : Text) : Option (Text × Text) :=
  let name := t.takeWhile (· ≠ '>')
  match name, t.dropWhile (· ≠ '>') with
  | first :: more, _ :: rest =>
    if isNameChar true first && more.all (isNameChar false) then some (name, rest) else none
  | _, _ => none

/-- Reads flags up to a colon or a closing parenthesis, which is left. No flag stands twice; one
hyphen at most, followed by a flag, switches the flags after it off. -/
def readFlags (flags : Flags) (seen : List Char) (afterHyphen : Bool) :
    Text → Option (Flags × List Char × Text)
  | [] => none
  | c :: rest =>
    if c = ':' || c = ')' then
      if afterHyphen then none else some (flags, seen, c :: rest)
    else if c ∈ seen then none
    else if c = '-' then readFlags flags (c :: seen) true rest
    else
      match flags.set? c ('-' ∉ seen) with
      | none => none
      | some flags => readFlags flags (c :: seen) false rest

def lookAroundStarts : List String := ["?=", "?!", "?<=", "?<!"]

def enterCapture (r : Reading) (name : Option Text) : Reading :=
  { r with groups := r.groups + 1 }.enter (.capturing (r.groups + 1) name) r.flags

def enterNamed (r : Reading) (t : Text) : Option (Reading × Text) := do
  let (name, rest) ← groupName? t
  if name ∈ r.names then none
  else some (enterCapture { r with names := name :: r.names } (some name), rest)

def readGroup (r : Reading) (t : Text) : Option (Reading × Text) :=
  let t := r.flags.skip t
  if lookAroundStarts.any fun s => s.toList.isPrefixOf t then none
  else
    match t with
    | '?' :: 'P' :: '<' :: rest => enterNamed r rest
    | '?' :: '<' :: rest => enterNamed r rest
    | '?' :: rest => do
      let (flags, seen, rest) ← readFlags r.flags [] false rest
      match rest with
      | ')' :: rest =>
        if seen.isEmpty then none
        else some ({ r with flags := flags }.push ⟨.empty, 0, true⟩, rest)
      | _ :: rest => some (r.enter .plain flags, rest)
      | [] => none
    | _ => some (enterCapture r none, t)

def lazyMark : Text → Bool × Text
  | '?' :: rest => (true, rest)
  | t => (false, t)

def readCounts (r : Reading) (t : Text) : Option (Reading × Text) := do
  let flags := r.flags
  let (least, rest) ← decimal flags (flags.skip t)
  let (most, rest) ←
    match rest with
    | ',' :: rest =>
      match flags.skip rest with
      | '}' :: rest => some (none, '}' :: rest)
      | rest => (decimal flags rest).map fun (n, rest) => (some n, rest)
    | _ => some (some least, rest)
  match rest with
  | '}' :: rest =>
    let (lazy, rest) := lazyMark (flags.skip rest)
    if most.any (· < least) then none
    else (r.repeatLast? least most lazy).map (·, rest)
  | _ => none

def readSign (r : Reading) (least : Nat) (most : Option Nat) (t : Text) :
    Option (Reading × Text) :=
  let (lazy, rest) := lazyMark t
  (r.repeatLast? least most lazy).map (·, rest)

def readOne (r : Reading) (c : Char) (rest : Text) : Option (Reading × Text) :=
  let flags := r.flags
  match c with
  | '(' => readGroup r rest
  | ')' => r.leave?.map (·, rest)
  | '|' => some (r.alternate, rest)
  | '[' =>
    (bracketed flags (2 * rest.length + 2) rest).map fun (part, rest) =>
      (r.push ⟨.chars part.set, part.height, false⟩, rest)
  | '?' => readSign r 0 (some 1) rest
  | '*' => readSign r 0 none rest
  | '+' => readSign r 1 none rest
  | '{' => readCounts r rest
  | '.' => (dotExpr flags).map fun e => (r.pushExpr e, rest)
  | '^' => some (r.pushExpr (caretExpr flags), rest)
  | '$' => some (r.pushExpr (dollarExpr flags), rest)
  | '\\' => do
    let (primitive, rest) ← escape flags rest
    let e ← primitiveExpr flags primitive
    some (r.pushExpr e, rest)
  | c => some (r.pushExpr (literalExpr flags c), rest)

def readAll (r : Reading) : Nat → Text → Option Reading
  | 0, _ => none
  | n + 1, t =>
    match r.flags.skip t with
    | [] => some r
    | c :: rest =>
      match readOne r c rest with
      | none => none
      | some (r, rest) => readAll r n rest

def Expr.parse? (source : Text) : Option Expr := do
  let r ← readAll {} (source.length + 1) source
  if !r.frames.isEmpty then none
  let body := r.body
  if maxHeight < body.height || Expr.maxRoom < body.expr.room then none
  some body.expr

end Grok.Regex.Linear
