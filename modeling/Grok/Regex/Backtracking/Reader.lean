import Grok.Regex.Backtracking.Expr
import Grok.Unicode.Property

namespace Grok.Regex.Backtracking

structure Flags where
  ignoreCase : Bool := false
  multiLine : Bool := false
  dotAll : Bool := false
  swapGreed : Bool := false
  extended : Bool := false
deriving DecidableEq, Repr

def Flags.set? (flags : Flags) (letter : Char) (on : Bool) : Option Flags :=
  match letter with
  | 'i' => some { flags with ignoreCase := on }
  | 'm' => some { flags with multiLine := on }
  | 's' => some { flags with dotAll := on }
  | 'U' => some { flags with swapGreed := on }
  | 'x' => some { flags with extended := on }
  | 'u' => if on then some flags else none
  | _ => none

structure Reading where
  rest : Text
  size : Nat
  flags : Flags := {}
  groups : Nat := 0
  /-- The names of groups with their numbers, the last one first. -/
  names : List (Text × Nat) := []
  numbered : Bool := false
  referenced : List Nat := []

abbrev Reader := StateT Reading Option

inductive Gap where
  | blanks
  | line
  | parenthesis

def skipGap (extended : Bool) : Gap → Text → Option Text
  | .blanks, '(' :: '?' :: '#' :: rest => skipGap extended .parenthesis rest
  | .blanks, c :: rest =>
    if extended && (c == ' ' || c == '\t' || c == '\r' || c == '\n') then
      skipGap extended .blanks rest
    else if extended && c == '#' then skipGap extended .line rest
    else some (c :: rest)
  | .line, c :: rest => skipGap extended (if c = '\n' then .blanks else .line) rest
  | .parenthesis, '\\' :: _ :: rest => skipGap extended .parenthesis rest
  | .parenthesis, c :: rest => skipGap extended (if c = ')' then .blanks else .parenthesis) rest
  | .parenthesis, [] => none
  | _, [] => some []

namespace Reader

def rest : Reader Text := do return (← get).rest

def goTo (t : Text) : Reader Unit := modify fun r => { r with rest := t }

def skip : Reader Text := do
  let r ← get
  let t ← skipGap r.flags.extended .blanks r.rest
  goTo t
  return t

def expect (c : Char) : Reader Unit := do
  match ← skip with
  | d :: rest => if c = d then goTo rest else failure
  | [] => failure

def groupOf? (name : Text) : Reader (Option Nat) := do return (← get).names.lookup name

def refer (group : Nat) : Reader Unit := do
  let r ← get
  if r.groups < group then failure
  set { r with referenced := group :: r.referenced }

def openGroup (name : Option Text) : Reader Nat := do
  let r ← get
  let index := r.groups + 1
  let names := match name with
    | none => r.names
    | some name => (name, index) :: r.names
  set { r with groups := index, names := names }
  return index

end Reader

def number? (t : Text) : Option (Nat × Text) :=
  let digits := t.takeWhile Char.isDigit
  let n := digits.foldl (fun n c => n * 10 + (c.toNat - 48)) 0
  if digits.isEmpty || 18446744073709551616 ≤ n then none else some (n, t.dropWhile Char.isDigit)

def isIdChar (c : Char) : Bool := c = '_' || Unicode.Property.isAlphanumeric c

def id? (opening closing : Text) (t : Text) : Option (Text × Text) :=
  if !opening.isPrefixOf t then none
  else
    let t := t.drop opening.length
    let name := t.takeWhile isIdChar
    let rest := t.drop name.length
    if name.isEmpty || !closing.isPrefixOf rest then none
    else some (name, rest.drop closing.length)

end Grok.Regex.Backtracking
