import Grok.Regex.ClassName
import Grok.Regex.Linear.Flags
import Grok.Regex.Look

namespace Grok.Regex.Linear

inductive Primitive where
  | literal (c : Char) (isByte : Bool)
  | perl (letter : Char) (negated : Bool)
  | unicode (set : CharSet) (negated : Bool)
  | look (look : Look)
deriving Repr

def isHexDigit (c : Char) : Bool :=
  c.isDigit || ('a' ≤ c && c ≤ 'f') || ('A' ≤ c && c ≤ 'F')

def hexNumber (digits : Text) : Nat := digits.foldl (fun n c => n * 16 + CharSet.hexValue c) 0

def charOf? (n : Nat) : Option Char := if n.isValidChar then some (Char.ofNat n) else none

def hexDigits (flags : Flags) : Nat → Text → Option (Text × Text)
  | 0, t => some ([], t)
  | n + 1, c :: rest =>
    if isHexDigit c then
      (hexDigits flags n (flags.skip rest)).map fun (digits, rest) => (c :: digits, rest)
    else none
  | _ + 1, [] => none

def hexBraced (flags : Flags) : Nat → Text → Option (Text × Text)
  | n + 1, c :: rest =>
    let rest := flags.skip rest
    if c = '}' then some ([], rest)
    else if isHexDigit c then
      (hexBraced flags n rest).map fun (digits, rest) => (c :: digits, rest)
    else none
  | _, _ => none

def hexEscape (flags : Flags) (count : Nat) (t : Text) : Option (Primitive × Text) :=
  match flags.skip t with
  | '{' :: rest => do
    let rest := flags.skip rest
    let (digits, rest) ← hexBraced flags (rest.length + 1) rest
    if digits.isEmpty then none
    let c ← charOf? (hexNumber digits)
    some (.literal c false, rest)
  | t => do
    let (digits, rest) ← hexDigits flags count t
    let c ← charOf? (hexNumber digits)
    some (.literal c (count = 2), rest)

def bracedName (flags : Flags) : Nat → Text → Option (Text × Text)
  | n + 1, c :: rest =>
    if c = '}' then some ([], rest)
    else (bracedName flags n (flags.skip rest)).map fun (name, rest) => (c :: name, rest)
  | _, _ => none

def cutAt? (separator : Text) : Text → Option (Text × Text)
  | [] => none
  | c :: rest =>
    if separator.isPrefixOf (c :: rest) then some ([], (c :: rest).drop separator.length)
    else (cutAt? separator rest).map fun (before, after) => (c :: before, after)

def namedClass? (name : Text) : Option (CharSet × Bool) :=
  match cutAt? "!=" name with
  | some (property, value) => (ClassName.unicodeValue? property value).map (·, true)
  | none =>
    match (cutAt? ":" name).or (cutAt? "=" name) with
    | some (property, value) => (ClassName.unicodeValue? property value).map (·, false)
    | none => (ClassName.unicode? name).map (·, false)

def unicodeEscape (flags : Flags) (negated : Bool) (t : Text) : Option (Primitive × Text) := do
  if !flags.unicode then none
  match flags.skip t with
  | [] => none
  | '{' :: rest =>
    let rest := flags.skip rest
    let (name, rest) ← bracedName flags (rest.length + 1) rest
    let (set, negated') ← namedClass? name
    some (.unicode set (negated != negated'), rest)
  | c :: rest =>
    if c = '\\' then none
    else
      let set ← ClassName.unicode? [c]
      some (.unicode set negated, flags.skip rest)

def isEscapable (c : Char) : Bool := c.toNat < 128 && !c.isAlphanum && c ≠ '<' && c ≠ '>'

def wordLook (flags : Flags) (edge : WordEdge) : Primitive :=
  .look (if flags.unicode then .word edge else .asciiWord edge)

def wordEdge? (name : Text) : Option WordEdge :=
  if name = "start" then some .start
  else if name = "end" then some .stop
  else if name = "start-half" then some .startHalf
  else if name = "end-half" then some .stopHalf
  else none

def wordEdgeName (flags : Flags) : Nat → Text → Text × Text
  | n + 1, c :: rest =>
    if c.isAlpha || c = '-' then
      let (name, rest) := wordEdgeName flags n (flags.skip rest)
      (c :: name, rest)
    else ([], c :: rest)
  | _, t => ([], t)

/-- Reads a word boundary after its letter. A name between braces makes it another assertion; braces
that hold no name belong to a repetition. -/
def wordBoundary (flags : Flags) (t : Text) : Option (Primitive × Text) :=
  match t with
  | '{' :: rest =>
    match flags.skip rest with
    | [] => none
    | c :: rest =>
      if c.isAlpha || c = '-' then
        let (name, rest) := wordEdgeName flags (rest.length + 1) (c :: rest)
        match rest with
        | '}' :: rest => (wordEdge? name).map fun edge => (wordLook flags edge, rest)
        | _ => none
      else some (wordLook flags .boundary, t)
  | _ => some (wordLook flags .boundary, t)

def escape (flags : Flags) : Text → Option (Primitive × Text)
  | [] => none
  | c :: rest =>
    match c with
    | 'x' => hexEscape flags 2 rest
    | 'u' => hexEscape flags 4 rest
    | 'U' => hexEscape flags 8 rest
    | 'p' => unicodeEscape flags false rest
    | 'P' => unicodeEscape flags true rest
    | 'd' | 's' | 'w' => some (.perl c false, rest)
    | 'D' => some (.perl 'd' true, rest)
    | 'S' => some (.perl 's' true, rest)
    | 'W' => some (.perl 'w' true, rest)
    | 'a' => some (.literal '\x07' false, rest)
    | 'f' => some (.literal '\x0c' false, rest)
    | 't' => some (.literal '\t' false, rest)
    | 'n' => some (.literal '\n' false, rest)
    | 'r' => some (.literal '\r' false, rest)
    | 'v' => some (.literal '\x0b' false, rest)
    | 'A' => some (.look .textStart, rest)
    | 'z' => some (.look .textEnd, rest)
    | 'b' => wordBoundary flags rest
    | 'B' => some (wordLook flags .notBoundary, rest)
    | '<' => some (wordLook flags .start, rest)
    | '>' => some (wordLook flags .stop, rest)
    | c => if isEscapable c then some (.literal c false, rest) else none

def digits (flags : Flags) : Nat → Text → Text × Text
  | n + 1, c :: rest =>
    if c.isDigit then
      let (more, rest) := digits flags n (flags.skip rest)
      (c :: more, rest)
    else ([], c :: rest)
  | _, t => ([], t)

def decimal (flags : Flags) (t : Text) : Option (Nat × Text) :=
  let t := t.dropWhile isBlank
  let (ds, rest) := digits flags t.length t
  let n := ds.foldl (fun n c => n * 10 + (c.toNat - 48)) 0
  if ds.isEmpty || 4294967296 ≤ n then none
  else some (n, flags.skip (rest.dropWhile isBlank))

end Grok.Regex.Linear
