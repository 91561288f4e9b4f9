import Grok.Regex.Backtracking.Reader
import Grok.Regex.Linear.Escape

namespace Grok.Regex.Backtracking

open Linear (isHexDigit hexNumber charOf?)

def hexEscape (count : Nat) (t : Text) : Option (Char × Text) :=
  let digits := t.take count
  if digits.length = count && digits.all isHexDigit then
    (charOf? (hexNumber digits)).map (·, t.drop count)
  else
    match t with
    | '{' :: t =>
      let digits := t.takeWhile isHexDigit
      match t.drop digits.length with
      | '}' :: rest =>
        if digits.isEmpty || 8 < digits.length then none
        else (charOf? (hexNumber digits)).map (·, rest)
      | _ => none
    | _ => none

def unicodeName : Text → Option (Text × Text)
  | [] => none
  | '{' :: t =>
    match t.dropWhile (· ≠ '}') with
    | _ :: rest => some ('{' :: t.takeWhile (· ≠ '}') ++ ['}'], rest)
    | [] => none
  | c :: rest => some ([c], rest)

def controlOf? : Char → Option Char
  | 'a' => some '\x07'
  | 'f' => some '\x0c'
  | 'n' => some '\n'
  | 'r' => some '\r'
  | 't' => some '\t'
  | 'v' => some '\x0b'
  | 'e' => some '\x1b'
  | _ => none

def charEscape (flags : Flags) : Text → Option (Expr × Text)
  | [] => none
  | c :: rest =>
    let fold := flags.ignoreCase
    let hex (count : Nat) := (hexEscape count rest).map fun (c, rest) => (.char c fold, rest)
    match c with
    | 'd' | 'D' | 's' | 'S' | 'w' | 'W' => some (.chars ['\\', c] fold, rest)
    | 'h' => some (.chars "[0-9A-Fa-f]" false, rest)
    | 'H' => some (.chars "[^0-9A-Fa-f]" false, rest)
    | 'x' => hex 2
    | 'u' => hex 4
    | 'U' => hex 8
    | 'p' | 'P' =>
      (unicodeName rest).map fun (name, rest) => (.chars ('\\' :: c :: name) fold, rest)
    | c =>
      match controlOf? c with
      | some c => some (.char c false, rest)
      | none => if c.isAlphanum then none else some (.char c false, rest)

def classLetters : Text := "kAzBKG"

def classEscape (flags : Flags) (t : Text) : Option (Text × Text) :=
  let quoted (c : Char) : Text := if isMeta c then ['\\', c] else [c]
  match t with
  | 'b' :: rest => some (quoted '\x08', rest)
  | t =>
    match charEscape flags t with
    | some (.char c _, rest) => some (quoted c, rest)
    | some (.chars source _, rest) => some (source, rest)
    | _ =>
      match t with
      | c :: rest => if c ∈ classLetters then some ([c], rest) else none
      | [] => none
where
  isMeta (c : Char) : Bool := c ∈ ("\\.+*?()|[]\x7b\x7d^$#&-~" : Text)

def classBody (flags : Flags) : Nat → Nat → Text → Option (Text × Text)
  | 0, _, _ => none
  | _, _, [] => none
  | n + 1, depth, c :: rest =>
    let go (source : Text) (depth : Nat) (rest : Text) :=
      (classBody flags n depth rest).map fun (more, rest) => (source ++ more, rest)
    match c with
    | '\\' =>
      match classEscape flags rest with
      | some (source, rest) => go source depth rest
      | none => none
    | '[' => go [c] (depth + 1) rest
    | ']' => if depth ≤ 1 then some ([c], rest) else go [c] (depth - 1) rest
    | c => go [c] depth rest

def readClass (t : Text) : Reader Expr := do
  let flags := (← get).flags
  let (caret, t) := match t with
    | '^' :: rest => (['^'], rest)
    | _ => ([], t)
  let (bracket, t) := match t with
    | ']' :: rest => (['\\', ']'], rest)
    | _ => ([], t)
  let (body, rest) ← classBody flags (t.length + 1) 1 t
  Reader.goTo rest
  return .chars ('[' :: caret ++ bracket ++ body) flags.ignoreCase

def numberedRef (t : Text) : Reader Expr := do
  let (group, rest) ← number? t
  if (← get).size / 2 ≤ group then failure
  modify fun r => { r with rest := rest, numbered := true }
  Reader.refer group
  return .backref group

def relativeGroup? (groups : Nat) (t : Text) : Option (Nat × Text) :=
  match t with
  | '-' :: t => do
    let (n, rest) ← number? t
    if groups + 1 < n then none
    some (groups + 1 - n, rest)
  | '+' :: t => (number? t).map fun (n, rest) => (groups + n, rest)
  | _ => none

/-- Reads a reference to a group by its name, between two marks. Numbers may stand for names, and
numbers with a sign for the distance of a group. -/
def namedRef (opening closing : Text) (relative : Bool) (t : Text) : Reader Expr := do
  match id? opening closing t with
  | some (name, rest) =>
    let group ← match ← Reader.groupOf? name with
      | some group => pure group
      | none =>
        match number? name with
        | some (group, []) => pure group
        | _ => failure
    Reader.goTo rest
    Reader.refer group
    return .backref group
  | none =>
    if !relative || !opening.isPrefixOf t then failure
    let (group, rest) ← relativeGroup? (← get).groups (t.drop opening.length)
    if !closing.isPrefixOf rest then failure
    Reader.goTo (rest.drop closing.length)
    Reader.refer group
    return .backref group

def lookEscape? : Char → Option Expr
  | 'A' => some (.look .textStart)
  | 'z' => some (.look .textEnd)
  | 'b' => some (.look (.word .boundary))
  | 'B' => some (.look (.word .notBoundary))
  | '<' => some (.look (.word .start))
  | '>' => some (.look (.word .stop))
  | 'K' => some .keepOut
  | 'G' => some .searchStart
  | _ => none

def readEscape (t : Text) : Reader Expr := do
  match t with
  | [] => failure
  | c :: rest =>
    if c.isDigit then numberedRef t
    else if c = 'k' then
      if rest.head? = some '\x27' then namedRef "'" "'" true rest
      else namedRef "<" ">" true rest
    else
      match lookEscape? c with
      | some e =>
        if (c = 'b' || c = 'B') && rest.head? = some '\x7b' then failure
        Reader.goTo rest
        return e
      | none =>
        let (e, rest) ← charEscape (← get).flags t
        Reader.goTo rest
        return e

end Grok.Regex.Backtracking
