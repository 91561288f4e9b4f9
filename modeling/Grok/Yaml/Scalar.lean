import Grok.Regex.Linear.Escape
import Grok.Yaml.Cursor

namespace Grok.Yaml

open Regex.Linear (isHexDigit hexNumber charOf?)

structure Gap where
  spaces : Text := []
  first : Option Text := none
  further : Text := []

namespace Gap

def toText (g : Gap) : Text :=
  match g.first with
  | none => g.spaces
  | some b =>
    if b = ['\n'] then (if g.further.isEmpty then [' '] else g.further) else b ++ g.further

def read (column : Nat) : Nat → Gap → Cursor → Option (Gap × Cursor)
  | 0, g, c => some (g, c)
  | n + 1, g, c =>
    match c.rest with
    | [] => some (g, c)
    | b :: _ =>
      if isSpace b then
        if g.first.isNone then read column n { g with spaces := g.spaces ++ [b] } (c.advance 1)
        else if c.column < column && b = '\t' then none
        else read column n g (c.advance 1)
      else if isBreak b then
        let (t, c) := c.takeBreak
        match g.first with
        | none => read column n ⟨[], some t, []⟩ c
        | some _ => read column n { g with further := g.further ++ t } c
      else some (g, c)

end Gap

def isFlowMark (c : Char) : Bool := c = ',' || c = '[' || c = ']' || c = '{' || c = '}'

def plainWord (inFlow : Bool) : Text → Option Text
  | [] => some []
  | c :: rest =>
    if isSpace c || isBreak c then some []
    else if inFlow && c = ':' && rest.head?.any (fun d => isFlowMark d || d = '?') then none
    else if c = ':' && atGap rest then some []
    else if inFlow && isFlowMark c then some []
    else (plainWord inFlow rest).map (c :: ·)

/-- Reads the words of a plain scalar after a gap, with so many steps at most. The scalar ends
before a line that is indented less than the given column. The result says whether it ends with a
break. -/
def plainWords (inFlow : Bool) (column : Nat) : Nat → Text → Gap → Cursor →
    Option (Text × Bool × Cursor)
  | 0, _, _, _ => none
  | n + 1, value, gap, c =>
    let done := some (value, gap.first.isSome, c)
    if c.atDocumentMark || c.rest.head? = some '#' then done
    else
      match plainWord inFlow c.rest with
      | none => none
      | some [] => done
      | some word =>
        let value := value ++ gap.toText ++ word
        match Gap.read column (c.rest.length + 1) {} (c.advance word.length) with
        | none => none
        | some (gap, c) =>
          if !inFlow && c.column < column then some (value, gap.first.isSome, c)
          else plainWords inFlow column n value gap c

def plainScalar (inFlow : Bool) (column : Nat) (c : Cursor) : Option (Text × Bool × Cursor) :=
  plainWords inFlow column (c.rest.length + 1) [] {} c

def escapes : List (Char × Char) := [
  ('0', '\x00'), ('a', '\x07'), ('b', '\x08'), ('t', '\t'), ('\t', '\t'), ('n', '\n'),
  ('v', '\x0b'), ('f', '\x0c'), ('r', '\r'), ('e', '\x1b'), (' ', ' '), ('\x22', '\x22'),
  ('/', '/'), ('\\', '\\'), ('N', '\u0085'), ('_', '\u00a0'), ('L', '\u2028'), ('P', '\u2029')]

def hexLengths : List (Char × Nat) := [('x', 2), ('u', 4), ('U', 8)]

def quotedEscape : Text → Option (Char × Nat)
  | [] => none
  | c :: rest =>
    match escapes.lookup c, hexLengths.lookup c with
    | some d, _ => some (d, 1)
    | none, some n =>
      let digits := rest.take n
      if digits.length = n && digits.all isHexDigit then
        (charOf? (hexNumber digits)).map (·, n + 1)
      else none
    | none, none => none

def quotedWord (quote : Char) : Nat → Text → Cursor → Option (Text × Bool × Cursor)
  | 0, _, _ => none
  | n + 1, value, c =>
    if atGap c.rest then some (value, false, c)
    else
      match c.rest with
      | [] => some (value, false, c)
      | d :: rest =>
        if quote = '\x27' && d = quote && rest.head? = some quote then
          quotedWord quote n (value ++ [quote]) (c.advance 2)
        else if d = quote then some (value, false, c)
        else if quote = '\x22' && d = '\\' then
          if rest.head?.any isBreak then some (value, true, (c.advance 1).takeBreak.2)
          else
            match quotedEscape rest with
            | none => none
            | some (d, n') => quotedWord quote n (value ++ [d]) (c.advance (n' + 1))
        else quotedWord quote n (value ++ [d]) (c.advance 1)

def quotedWords (quote : Char) : Nat → Text → Cursor → Option (Text × Cursor)
  | 0, _, _ => none
  | n + 1, value, c =>
    if c.atDocumentMark || c.rest.isEmpty then none
    else
      match quotedWord quote (c.rest.length + 1) value c with
      | none => none
      | some (value, escaped, c) =>
        if !escaped && c.rest.head? = some quote then some (value, c.advance 1)
        else
          let gap : Gap := if escaped then { first := some [] } else {}
          match Gap.read 0 (c.rest.length + 1) gap c with
          | none => none
          | some (gap, c) => quotedWords quote n (value ++ gap.toText) c

def quotedScalar (quote : Char) (c : Cursor) : Option (Text × Cursor) :=
  quotedWords quote (c.rest.length + 1) [] (c.advance 1)

inductive Chomping where
  | strip
  | clip
  | keep
deriving DecidableEq

structure BlockHeader where
  chomping : Chomping := .clip
  indent : Option Nat := none

def blockHeader (t : Text) : Option (BlockHeader × Text) :=
  let chomping (t : Text) : Option Chomping × Text :=
    match t with
    | '+' :: rest => (some .keep, rest)
    | '-' :: rest => (some .strip, rest)
    | t => (none, t)
  let indent (t : Text) : Option (Option Nat × Text) :=
    match t with
    | c :: rest =>
      if c = '0' then none
      else if c.isDigit then some (some (c.toNat - 48), rest)
      else some (none, t)
    | [] => some (none, [])
  match chomping t with
  | (some k, t) => (indent t).map fun (i, t) => (⟨k, i⟩, t)
  | (none, t) =>
    match indent t with
    | none => none
    | some (none, t) => some ({}, t)
    | some (some i, t) =>
      let (k, t) := chomping t
      some (⟨k.getD .clip, some i⟩, t)

def blockBreaks (indent : Option Nat) : Nat → Text → Nat → Cursor → Option (Text × Nat × Cursor)
  | 0, breaks, widest, c => some (breaks, widest, c)
  | n + 1, breaks, widest, c =>
    let spaces := (c.rest.takeWhile (· = ' ')).length
    let c :=
      match indent with
      | none => c.advance spaces
      | some i => c.advance (min spaces (i - c.column))
    let widest := max widest c.column
    match c.rest with
    | [] => some (breaks, widest, c)
    | d :: _ =>
      if indent.all (c.column < ·) && d = '\t' then none
      else if isBreak d then
        let (b, c) := c.takeBreak
        blockBreaks indent n (breaks ++ b) widest c
      else some (breaks, widest, c)

/-- What joins a line of a block to the one before it. In a folded block a single line feed between
lines that do not start with blanks is a space. -/
def blockJoint (folded blankBefore blankAfter : Bool) (first further : Text) : Text :=
  if folded && first = ['\n'] && !blankBefore && !blankAfter then
    if further.isEmpty then [' '] else further
  else first ++ further

def blockLines (folded : Bool) (chomping : Chomping) (indent : Nat) :
    Nat → Text → Text → Text → Bool → Cursor → Option (Text × Cursor)
  | 0, _, _, _, _, _ => none
  | n + 1, value, first, further, blankBefore, c =>
    if c.column = indent && !c.rest.isEmpty then
      let blank := c.rest.head?.any isSpace
      let joint := blockJoint folded blankBefore blank first further
      let (line, c) := c.takeWhile (!isBreak ·)
      let (first, c) := c.takeBreak
      match blockBreaks (some indent) (c.rest.length + 1) [] 0 c with
      | none => none
      | some (further, _, c) =>
        blockLines folded chomping indent n (value ++ joint ++ line) first further blank c
    else
      match chomping with
      | .strip => some (value, c)
      | .clip => some (value ++ first, c)
      | .keep => some (value ++ first ++ further, c)

def blockScalar (folded : Bool) (parent : Option Nat) (c : Cursor) : Option (Text × Cursor) := do
  let (header, t) ← blockHeader c.rest
  let c ← (c.advance (c.rest.length - t.length)).skipComment
  let known := header.indent.map fun i => parent.getD 0 + i
  let (further, widest, c) ← blockBreaks known (c.rest.length + 1) [] 0 c
  let indent := known.getD (max widest (max 1 (parent.elim 0 (· + 1))))
  blockLines folded header.chomping indent (c.rest.length + 1) [] [] further false c

end Grok.Yaml
