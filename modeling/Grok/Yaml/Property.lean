import Grok.Regex.Linear.Escape
import Grok.Yaml.Cursor
import Grok.Yaml.Token

namespace Grok.Yaml

open Regex.Linear (isHexDigit hexNumber)

def anchorName (c : Cursor) : Option (Text × Cursor) :=
  let (name, c) := (c.advance 1).takeWhile isNameChar
  let closed := atGap c.rest || c.rest.head?.any fun d => d ∈ ("?:,]\x7d%@\x60" : Text)
  if name.isEmpty || !closed then none else some (name, c)

/-- Whether a character may stand in a tag as it is. Some may only stand in a tag that is written
out between angle brackets, or in a directive. -/
def isTagChar (full : Bool) (c : Char) : Bool :=
  isNameChar c || c ∈ (";/?:@&=+$.!~*'()" : Text) || (full && (c = ',' || c = '[' || c = ']'))

def escapedByte : Text → Option (Nat × Text)
  | '%' :: a :: b :: rest =>
    if isHexDigit a && isHexDigit b then some (hexNumber [a, b], rest) else none
  | _ => none

def furtherBytes : Nat → Nat → Text → Option (Nat × Text)
  | 0, code, t => some (code, t)
  | n + 1, code, t => do
    let (b, t) ← escapedByte t
    if b / 64 ≠ 2 then none
    furtherBytes n (code * 64 + b % 64) t

def escapedChar (t : Text) : Option (Char × Text) := do
  let (b, t) ← escapedByte t
  let (further, code) ←
    if b < 128 then some (0, b)
    else if b / 32 = 6 then some (1, b % 32)
    else if b / 16 = 14 then some (2, b % 16)
    else if b / 8 = 30 then some (3, b % 8)
    else none
  let (code, t) ← furtherBytes further code t
  some (Char.ofNat code, t)

def tagChars (full : Bool) : Nat → Text → Option (Text × Text)
  | 0, t => some ([], t)
  | n + 1, t =>
    match t with
    | [] => some ([], [])
    | c :: rest =>
      if c = '%' then
        match escapedChar t with
        | none => none
        | some (c, rest) => (tagChars full n rest).map fun (more, rest) => (c :: more, rest)
      else if isTagChar full c then
        (tagChars full n rest).map fun (more, rest) => (c :: more, rest)
      else some ([], t)

def tagText (full : Bool) (c : Cursor) : Option (Text × Cursor) :=
  (tagChars full c.rest.length c.rest).map fun (t, rest) =>
    (t, c.advance (c.rest.length - rest.length))

def tagHandle (c : Cursor) : Text × Cursor :=
  let (name, c) := (c.advance 1).takeWhile isNameChar
  if c.rest.head? = some '!' then ('!' :: name ++ ['!'], c.advance 1) else ('!' :: name, c)

def tagToken (inFlow : Bool) (c : Cursor) : Option (Token × Cursor) := do
  let (token, c) ←
    if "!<".toList.isPrefixOf c.rest then do
      let (t, c) ← tagText true (c.advance 2)
      if t.isEmpty || c.rest.head? ≠ some '>' then none
      some (Token.tag [] t, c.advance 1)
    else do
      let (handle, after) := tagHandle c
      if 1 < handle.length && handle.getLast? = some '!' then do
        let (t, c) ← tagText false after
        if t.isEmpty then none
        some (Token.tag handle t, c)
      else do
        let (t, c) ← tagText false after
        let suffix := handle.drop 1 ++ t
        some (if suffix.isEmpty then Token.tag [] "!" else Token.tag "!" suffix, c)
  if atGap c.rest || (inFlow && c.rest.head? = some ',') then some (token, c) else none

def versionNumber (c : Cursor) : Option (Nat × Cursor) :=
  let (digits, c) := c.takeWhile Char.isDigit
  if digits.isEmpty || 9 < digits.length then none
  else some (digits.foldl (fun n d => n * 10 + (d.toNat - 48)) 0, c)

def directive (c : Cursor) : Option (Token × Cursor) := do
  let (name, c) := (c.advance 1).takeWhile isNameChar
  if name.isEmpty || !atGap c.rest then none
  let (token, c) ←
    if name = "YAML" then do
      let (major, c) ← versionNumber (c.skipWhile isSpace)
      if c.rest.head? ≠ some '.' then none
      let (minor, c) ← versionNumber (c.advance 1)
      some (Token.version major minor, c)
    else if name = "TAG" then do
      let c := c.skipWhile isSpace
      if c.rest.head? ≠ some '!' then none
      let (handle, c) := tagHandle c
      if handle ≠ "!" && (handle.length = 1 || handle.getLast? ≠ some '!') then none
      if !c.rest.head?.any isSpace then none
      let (start, c) ← tagText true (c.skipWhile isSpace)
      if start.isEmpty || !atGap c.rest then none
      some (Token.handle handle start, c)
    else none
  let c ← c.skipComment
  some (token, c)

end Grok.Yaml
