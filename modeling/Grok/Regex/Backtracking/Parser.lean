import Grok.Regex.Backtracking.Escape

namespace Grok.Regex.Backtracking

def maxDepth : Nat := 64

def counts? (extended : Bool) (t : Text) : Option (Nat × Option Nat × Text) := do
  let skip := skipGap extended .blanks
  let t ← skip t
  let (least, t) ← if t.head? = some ',' then some (0, t) else number? t
  let (most, t) ←
    match ← skip t with
    | ',' :: t => do
      let t ← skip t
      match number? t with
      | some (most, t) => some (some most, t)
      | none => some (none, t)
    | t => some (some least, t)
  match ← skip t with
  | '}' :: t => some (least, most, t)
  | _ => none

def bounds? (extended : Bool) : Text → Option (Nat × Option Nat × Text)
  | '?' :: rest => some (0, some 1, rest)
  | '*' :: rest => some (0, none, rest)
  | '+' :: rest => some (1, none, rest)
  | '{' :: rest => counts? extended rest
  | _ => none

def readRepetition (e : Expr) : Reader Expr := do
  let t ← Reader.skip
  match bounds? (← get).flags.extended t with
  | none => return e
  | some (least, most, t) =>
    if !e.isRepeatable then failure
    Reader.goTo t
    let t ← Reader.skip
    let lazy := t.head? = some '?'
    let t := if lazy then t.drop 1 else t
    let greedy := lazy == (← get).flags.swapGreed
    let e := .loop least most greedy e
    match t with
    | '+' :: rest => Reader.goTo rest; return .atomic e
    | t => Reader.goTo t; return e

/-- Reads flags up to a closing parenthesis or a colon, which is left. One hyphen at most switches
the flags after it off. -/
def readFlags (on : Bool) : Nat → Reader Unit
  | 0 => failure
  | n + 1 => do
    match ← Reader.skip with
    | [] => failure
    | c :: rest =>
      if c = ')' || c = ':' then return
      else if c = '-' then
        if !on then failure
        Reader.goTo rest
        readFlags false n
      else
        match (← get).flags.set? c on with
        | none => failure
        | some flags =>
          modify fun r => { r with rest := rest, flags := flags }
          readFlags on n

inductive GroupKind where
  | capturing (name : Option Text)
  | around (kind : LookAround)
  | atomic
  | named
  | conditional
  | flags

def groupStarts : List (String × GroupKind) := [
  ("?=", .around .ahead),
  ("?!", .around .notAhead),
  ("?<=", .around .behind),
  ("?<!", .around .notBehind),
  ("?<", .named),
  ("?P<", .named),
  ("?>", .atomic),
  ("?(", .conditional),
  ("?", .flags)]

def groupKind (t : Text) : GroupKind × Text :=
  match groupStarts.find? fun start => (start.1 : Text).isPrefixOf t with
  | some (start, kind) => (kind, t.drop start.length)
  | none => (.capturing none, t)

def Expr.asCondition : Expr → Expr
  | .backref index => .captured index
  | e => e

def Expr.choose (condition : Expr) (branches : Expr) : Expr :=
  let (yes, no) :=
    match branches with
    | .choice (yes :: no) => (yes, Expr.alternatives no)
    | e => (e, .empty)
  if yes.isEmpty && no.isEmpty then condition.asCondition
  else .conditional condition.asCondition yes no

mutual

/-- Reads alternatives in so many groups, with so many steps at most. References by number do not go
with names. -/
def readChoice (depth : Nat) : Nat → Reader Expr
  | 0 => failure
  | n + 1 => do
    let first ← readSequence depth n
    match ← readMore depth n with
    | [] =>
      let r ← get
      if r.numbered && !r.names.isEmpty then failure
      return Expr.sequence first
    | more => return .choice (Expr.sequence first :: more)

def readMore (depth : Nat) : Nat → Reader (List Expr)
  | 0 => failure
  | n + 1 => do
    match ← Reader.skip with
    | '|' :: rest =>
      Reader.goTo rest
      let e ← readSequence depth n
      return Expr.sequence e :: (← readMore depth n)
    | _ => return []

def readSequence (depth : Nat) : Nat → Reader (List Expr)
  | 0 => failure
  | n + 1 => do
    match ← Reader.skip with
    | [] | '|' :: _ | ')' :: _ => return []
    | _ =>
      let e ← readRepetition (← readAtom depth n)
      let rest ← readSequence depth n
      return if e.isEmpty then rest else e :: rest

def readAtom (depth : Nat) : Nat → Reader Expr
  | 0 => failure
  | n + 1 => do
    let flags := (← get).flags
    match ← Reader.rest with
    | [] => return .empty
    | c :: rest =>
      match c with
      | '+' | '*' | '?' => return .empty
      | '(' =>
        if maxDepth ≤ depth + 1 then failure
        Reader.goTo rest
        readGroup (depth + 1) n
      | '\\' => readEscape rest
      | '[' => readClass rest
      | c =>
        Reader.goTo rest
        match c with
        | '.' => return .any flags.dotAll
        | '^' => return .look (if flags.multiLine then .lineStart else .textStart)
        | '$' => return .look (if flags.multiLine then .lineEnd else .textEnd)
        | c => return .char c flags.ignoreCase

def readGroup (depth : Nat) : Nat → Reader Expr
  | 0 => failure
  | n + 1 => do
    let t ← Reader.skip
    if ("?P=" : Text).isPrefixOf t then namedRef [] ")" false (t.drop 3)
    else
      let (kind, rest) := groupKind t
      Reader.goTo rest
      match kind with
      | .capturing name =>
        let index ← Reader.openGroup name
        return .group index (← readClosed depth n)
      | .named =>
        let (name, rest) ← id? [] ">" rest
        Reader.goTo rest
        let index ← Reader.openGroup (some name)
        return .group index (← readClosed depth n)
      | .around kind => return .around kind (← readClosed depth n)
      | .atomic => return .atomic (← readClosed depth n)
      | .conditional => readConditional depth n
      | .flags =>
        let flags := (← get).flags
        readFlags true (rest.length + 1)
        let t ← Reader.rest
        let written := rest.take (rest.length - t.length)
        if written = ['-'] then failure
        match t with
        | ')' :: t =>
          if written.isEmpty then failure
          Reader.goTo t
          return .empty
        | _ :: t =>
          Reader.goTo t
          let e ← readChoice depth n
          match ← Reader.rest with
          | ')' :: t =>
            modify fun r => { r with rest := t, flags := flags }
            return e
          | _ => failure
        | [] => failure

def readClosed (depth : Nat) : Nat → Reader Expr
  | 0 => failure
  | n + 1 => do
    let e ← readChoice depth n
    Reader.expect ')'
    return e

/-- Reads a conditional after its second parenthesis. Without branches it tells whether a group has
captured something. -/
def readConditional (depth : Nat) : Nat → Reader Expr
  | 0 => failure
  | n + 1 => do
    let t ← Reader.rest
    let condition ←
      match t with
      | [] => failure
      | c :: _ =>
        if c.isDigit then numberedRef t
        else if c = '\x27' then namedRef "'" "'" true t
        else if c = '<' then namedRef "<" ">" true t
        else readChoice depth n
    Reader.expect ')'
    let before ← Reader.rest
    let branches ← readChoice depth n
    let after ← Reader.rest
    Reader.expect ')'
    if before.length = after.length then
      match condition with
      | .backref group => return .captured group
      | _ => failure
    else return condition.choose branches

end

structure Source where
  expr : Expr
  groups : Nat
  names : List (Text × Nat)
  referenced : List Nat

def Source.parse? (source : Text) : Option Source := do
  let start : Reading := { rest := source, size := (String.ofList source).utf8ByteSize }
  let (e, r) ← (readChoice 0 (6 * source.length + 16)).run start
  if !r.rest.isEmpty then none
  some ⟨e, r.groups, r.names, r.referenced⟩

end Grok.Regex.Backtracking
