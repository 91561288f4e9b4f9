import Grok.Text.Basic

namespace Grok.Yaml

def isSpace (c : Char) : Bool := c = ' ' || c = '\t'

def isBreak (c : Char) : Bool :=
  c = '\n' || c = '\r' || c = '\u0085' || c = '\u2028' || c = '\u2029'

def isAllowed (c : Char) : Bool :=
  let n := c.toNat
  n = 0x9 || n = 0xA || n = 0xD || (0x20 ≤ n && n ≤ 0x7E) || n = 0x85 ||
    (0xA0 ≤ n && n ≤ 0xFFFD) || 0x10000 ≤ n

def isNameChar (c : Char) : Bool := c.isAlphanum || c = '-' || c = '_'

def atBreak : Text → Bool
  | [] => true
  | c :: _ => isBreak c

def atGap : Text → Bool
  | [] => true
  | c :: _ => isSpace c || isBreak c

structure Cursor where
  rest : Text
  line : Nat := 0
  column : Nat := 0
  index : Nat := 0

namespace Cursor

def advance (c : Cursor) (n : Nat) : Cursor :=
  { c with rest := c.rest.drop n, column := c.column + n, index := c.index + n }

def skipWhile (c : Cursor) (p : Char → Bool) : Cursor := c.advance (c.rest.takeWhile p).length

def takeWhile (c : Cursor) (p : Char → Bool) : Text × Cursor :=
  let t := c.rest.takeWhile p
  (t, c.advance t.length)

/-- Moves over a break, if there is one. The result has the break as it counts in scalars: line
feeds stand for all but the separators. -/
def takeBreak (c : Cursor) : Text × Cursor :=
  match c.rest with
  | '\r' :: '\n' :: rest => (['\n'], ⟨rest, c.line + 1, 0, c.index + 2⟩)
  | b :: rest =>
    if !isBreak b then ([], c)
    else
      let b := if b = '\u2028' || b = '\u2029' then b else '\n'
      ([b], ⟨rest, c.line + 1, 0, c.index + 1⟩)
  | [] => ([], c)

def skipComment (c : Cursor) : Option Cursor :=
  let c := c.skipWhile isSpace
  let c := if c.rest.head? = some '#' then c.skipWhile (!isBreak ·) else c
  if atBreak c.rest then some c.takeBreak.2 else none

def atMark (c : Cursor) (mark : Char) : Bool :=
  c.column = 0 && [mark, mark, mark].isPrefixOf c.rest && atGap (c.rest.drop 3)

def atDocumentMark (c : Cursor) : Bool := c.atMark '-' || c.atMark '.'

end Cursor

end Grok.Yaml
