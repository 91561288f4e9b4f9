import Grok.Yaml.Property
import Grok.Yaml.Scalar

/-!
Cutting a document into tokens. Whether text is the key of a mapping is known only when a colon
follows it. So each place where a key may start is remembered, and the tokens that a key needs are
put in there later.
-/

namespace Grok.Yaml

structure KeyPlace where
  /-- Whether there must be a colon after it, because the text is indented like a key. -/
  required : Bool
  token : Nat
  line : Nat
  column : Nat
  index : Nat

structure Lexer where
  cursor : Cursor
  tokens : List Token := []
  count : Nat := 0
  indent : Option Nat := none
  outer : List (Option Nat) := []
  keyAllowed : Bool := true
  key : Option KeyPlace := none
  outerKeys : List (Option KeyPlace) := []

namespace Lexer

def inFlow (l : Lexer) : Bool := !l.outerKeys.isEmpty

def contentColumn (l : Lexer) : Nat := l.indent.elim 0 (· + 1)

def push (l : Lexer) (token : Token) : Lexer :=
  { l with tokens := token :: l.tokens, count := l.count + 1 }

def insert (l : Lexer) (place : Nat) (token : Token) : Lexer :=
  let after := l.count - place
  { l with tokens := l.tokens.take after ++ token :: l.tokens.drop after, count := l.count + 1 }

def pushOver (l : Lexer) (token : Token) (n : Nat) : Lexer :=
  { l.push token with cursor := l.cursor.advance n }

def openBlock (l : Lexer) (column : Nat) (place : Nat) (token : Token) : Lexer :=
  if l.inFlow || column < l.contentColumn then l
  else { l.insert place token with indent := some column, outer := l.indent :: l.outer }

def closeBlocks (column : Option Nat) (l : Lexer) : List (Option Nat) → Lexer
  | [] => l
  | outer :: more =>
    if l.inFlow || l.indent.all fun i => column.any (i ≤ ·) then l
    else closeBlocks column { l.push .blockEnd with indent := outer, outer := more } more

def unroll (l : Lexer) (column : Option Nat) : Lexer := closeBlocks column l l.outer

def dropKey (l : Lexer) : Option Lexer :=
  if l.key.any (·.required) then none else some { l with key := none }

def saveKey (l : Lexer) : Option Lexer :=
  if !l.keyAllowed then some l
  else
    let c := l.cursor
    let required := !l.inFlow && l.indent = some c.column
    l.dropKey.map fun l => { l with key := some ⟨required, l.count, c.line, c.column, c.index⟩ }

def isStale (c : Cursor) (place : KeyPlace) : Bool :=
  place.line < c.line || place.index + 1024 < c.index

def dropStale (l : Lexer) : Option Lexer :=
  let stale (place : Option KeyPlace) : Bool := place.any (isStale l.cursor)
  if (l.key :: l.outerKeys).any fun place => stale place && place.any (·.required) then none
  else
    let keep (place : Option KeyPlace) : Option KeyPlace := if stale place then none else place
    some { l with key := keep l.key, outerKeys := l.outerKeys.map keep }

/-- Skips blanks, comments and breaks, with so many steps at most. Where a key may start, tabs are
not blanks. -/
def skipGaps : Nat → Lexer → Lexer
  | 0, l => l
  | n + 1, l =>
    let c := l.cursor
    let c := if c.index = 0 && c.rest.head? = some '\ufeff' then c.advance 1 else c
    let tabs := l.inFlow || !l.keyAllowed
    let c := c.skipWhile fun d => d = ' ' || (tabs && d = '\t')
    let c := if c.rest.head? = some '#' then c.skipWhile (!isBreak ·) else c
    if c.rest.head?.any isBreak then
      skipGaps n { l with cursor := c.takeBreak.2, keyAllowed := l.keyAllowed || !l.inFlow }
    else { l with cursor := c }

def fetchDirective (l : Lexer) : Option Lexer := do
  let l ← (l.unroll none).dropKey
  let (token, c) ← directive l.cursor
  some { l.push token with cursor := c, keyAllowed := false }

def fetchDocumentMark (l : Lexer) (token : Token) : Option Lexer := do
  let l ← (l.unroll none).dropKey
  some { l.pushOver token 3 with keyAllowed := false }

def fetchFlowStart (l : Lexer) (token : Token) : Option Lexer := do
  let l ← l.saveKey
  let outerKeys := l.key :: l.outerKeys
  some { l.pushOver token 1 with keyAllowed := true, key := none, outerKeys := outerKeys }

def fetchFlowEnd (l : Lexer) (token : Token) : Option Lexer := do
  let l ← l.dropKey
  let l := { l.pushOver token 1 with keyAllowed := false }
  match l.outerKeys with
  | [] => some l
  | key :: more => some { l with key := key, outerKeys := more }

def fetchFlowEntry (l : Lexer) : Option Lexer := do
  let l ← l.dropKey
  some { l.pushOver .flowEntry 1 with keyAllowed := true }

def fetchBlockEntry (l : Lexer) : Option Lexer := do
  if !l.inFlow && !l.keyAllowed then none
  let l ← (l.openBlock l.cursor.column l.count .blockSequence).dropKey
  some { l.pushOver .blockEntry 1 with keyAllowed := true }

def fetchKey (l : Lexer) : Option Lexer := do
  if !l.inFlow && !l.keyAllowed then none
  let l ← (l.openBlock l.cursor.column l.count .blockMapping).dropKey
  some { l.pushOver .key 1 with keyAllowed := !l.inFlow }

/-- Reads the colon before a value. The text before it is the key, if a key could start there. -/
def fetchValue (l : Lexer) : Option Lexer :=
  match l.key with
  | some place =>
    let l := (l.insert place.token .key).openBlock place.column place.token .blockMapping
    some { l.pushOver .value 1 with keyAllowed := false, key := none }
  | none =>
    if !l.inFlow && !l.keyAllowed then none
    else
      let l := l.openBlock l.cursor.column l.count .blockMapping
      some { l.pushOver .value 1 with keyAllowed := !l.inFlow }

def fetchContent (l : Lexer) (read : Cursor → Option (Token × Cursor)) : Option Lexer := do
  let l ← l.saveKey
  let (token, c) ← read l.cursor
  some { l.push token with cursor := c, keyAllowed := false }

def fetchPlain (l : Lexer) : Option Lexer := do
  let l ← l.saveKey
  let (t, broken, c) ← plainScalar l.inFlow l.contentColumn l.cursor
  some { l.push (.scalar t true) with cursor := c, keyAllowed := broken }

def fetchBlock (l : Lexer) (folded : Bool) : Option Lexer := do
  let l ← l.dropKey
  let (t, c) ← blockScalar folded l.indent (l.cursor.advance 1)
  some { l.push (.scalar t false) with cursor := c, keyAllowed := true }

def indicators : Text := "-?:,[]\x7b\x7d#&*!|>\x27\x22%@\x60"

def fetch (l : Lexer) : Option Lexer :=
  let c := l.cursor
  match c.rest with
  | [] => none
  | d :: rest =>
    let spaced := atGap rest
    if c.column = 0 && d = '%' then l.fetchDirective
    else if c.atMark '-' then l.fetchDocumentMark .documentStart
    else if c.atMark '.' then l.fetchDocumentMark .documentEnd
    else if d = '[' then l.fetchFlowStart .flowSequence
    else if d = '{' then l.fetchFlowStart .flowMapping
    else if d = ']' then l.fetchFlowEnd .flowSequenceEnd
    else if d = '}' then l.fetchFlowEnd .flowMappingEnd
    else if d = ',' then l.fetchFlowEntry
    else if d = '-' && spaced then l.fetchBlockEntry
    else if d = '?' && (l.inFlow || spaced) then l.fetchKey
    else if d = ':' && (l.inFlow || spaced) then l.fetchValue
    else if d = '*' then
      l.fetchContent fun c => (anchorName c).map fun (name, c) => (.reference name, c)
    else if d = '&' then
      l.fetchContent fun c => (anchorName c).map fun (name, c) => (.anchor name, c)
    else if d = '!' then l.fetchContent (tagToken l.inFlow)
    else if d = '|' && !l.inFlow then l.fetchBlock false
    else if d = '>' && !l.inFlow then l.fetchBlock true
    else if d = '\x27' || d = '\x22' then
      l.fetchContent fun c => (quotedScalar d c).map fun (t, c) => (.scalar t false, c)
    else
      let startsPlain :=
        (!isSpace d && !isBreak d && !(indicators.contains d)) ||
          (d = '-' && !rest.head?.any isSpace) ||
          (!l.inFlow && (d = '?' || d = ':') && !spaced)
      if startsPlain then l.fetchPlain else none

def fetchAll : Nat → Lexer → Option (List Token)
  | 0, _ => none
  | n + 1, l => do
    let l := skipGaps (l.cursor.rest.length + 1) l
    let l ← l.dropStale
    let l := l.unroll (some l.cursor.column)
    if l.cursor.rest.isEmpty then
      let l ← (l.unroll none).dropKey
      some l.tokens.reverse
    else fetchAll n (← l.fetch)

end Lexer

def Token.ofText? (t : Text) : Option (List Token) :=
  if !t.all isAllowed then none
  else
    let t := if t.head? = some '\ufeff' then t.drop 1 else t
    Lexer.fetchAll (t.length + 1) { cursor := { rest := t } }

end Grok.Yaml
