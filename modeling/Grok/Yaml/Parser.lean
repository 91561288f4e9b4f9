import Grok.Yaml.Lexer
import Grok.Yaml.Node

namespace Grok.Yaml

structure Parse where
  tokens : List Token
  handles : List (Text × Text) := []
  anchors : List (Text × Nat) := []
  anchored : List (Nat × Node) := []

abbrev NodeReader := StateT Parse Option

structure Properties where
  anchor : Option Text := none
  tag : Option (Text × Text) := none

namespace NodeReader

def peek : NodeReader (Option Token) := do return (← get).tokens.head?

def drop : NodeReader Unit := modify fun p => { p with tokens := p.tokens.drop 1 }

def sees (token : Token) : NodeReader Bool := do return (← peek) = some token

def seesAny (tokens : List Token) : NodeReader Bool := do return (← peek).any (tokens.contains ·)

def expect (token : Token) : NodeReader Unit := do
  if ← sees token then drop else failure

/-- Notes an anchor, and gives its number. The number of an anchor is how many other names there
are. -/
def addAnchor (name : Text) : NodeReader Nat := do
  let p ← get
  let id := p.anchors.length
  set { p with anchors := (name, id) :: p.anchors.filter fun entry => entry.1 ≠ name }
  return id

def keep (anchor : Option Nat) (node : Node) : NodeReader Node := do
  match anchor with
  | none => return node
  | some id =>
    modify fun p => { p with anchored := (id, node) :: p.anchored }
    return node

def properties : NodeReader Properties := do
  match ← peek with
  | some (.anchor name) =>
    drop
    match ← peek with
    | some (.tag handle suffix) => drop; return ⟨some name, some (handle, suffix)⟩
    | _ => return ⟨some name, none⟩
  | some (.tag handle suffix) =>
    drop
    match ← peek with
    | some (.anchor name) => drop; return ⟨some name, some (handle, suffix)⟩
    | _ => return ⟨none, some (handle, suffix)⟩
  | _ => return {}

def fullTag : Option (Text × Text) → NodeReader (Option Text)
  | none => return none
  | some ([], suffix) => return some suffix
  | some (handle, suffix) => do
    match (← get).handles.lookup handle with
    | some start => return some (start ++ suffix)
    | none => failure

end NodeReader

open NodeReader

mutual

/-- Reads a node, with so many steps at most. Inside flow collections there are no block
collections. The value of a key may be a sequence that is not indented. -/
def parseNode (block indentless : Bool) : Nat → NodeReader Node
  | 0 => failure
  | n + 1 => do
    match ← peek with
    | some (.reference name) =>
      drop
      match (← get).anchors.lookup name with
      | some id => return .reference id
      | none => failure
    | _ =>
      let props ← properties
      let tag ← fullTag props.tag
      let token ← peek
      let anchor : NodeReader (Option Nat) :=
        match props.anchor with
        | none => return none
        | some name => do return some (← addAnchor name)
      if indentless && token = some .blockEntry then
        let id ← anchor
        keep id (.sequence (← parseIndentless n))
      else
        match token with
        | some (.scalar t plain) =>
          drop
          keep (← anchor) (.scalar t plain (if tag = some ['!'] then none else tag))
        | some .flowSequence =>
          drop
          let id ← anchor
          keep id (.sequence (← parseFlowSequence true n))
        | some .flowMapping =>
          drop
          let id ← anchor
          keep id (.mapping (← parseFlowMapping true n))
        | some .blockSequence =>
          if !block then failure
          drop
          let id ← anchor
          keep id (.sequence (← parseBlockSequence n))
        | some .blockMapping =>
          if !block then failure
          drop
          let id ← anchor
          keep id (.mapping (← parseBlockMapping n))
        | _ =>
          if props.anchor.isNone && tag.isNone then failure
          keep (← anchor) (.scalar [] true tag)

def parseBlockSequence : Nat → NodeReader (List Node)
  | 0 => failure
  | n + 1 => do
    if ← sees .blockEnd then drop; return []
    expect .blockEntry
    let node ←
      if ← seesAny [.blockEntry, .blockEnd] then pure .absent else parseNode true false n
    return node :: (← parseBlockSequence n)

def parseIndentless : Nat → NodeReader (List Node)
  | 0 => failure
  | n + 1 => do
    if !(← sees .blockEntry) then return []
    drop
    let node ←
      if ← seesAny [.blockEntry, .key, .value, .blockEnd] then pure .absent
      else parseNode true false n
    return node :: (← parseIndentless n)

def parseBlockMapping : Nat → NodeReader (List (Node × Node))
  | 0 => failure
  | n + 1 => do
    if ← sees .blockEnd then drop; return []
    expect .key
    let key ← parseBlockPart n
    let value ←
      if ← sees .value then drop; parseBlockPart n
      else pure .absent
    return (key, value) :: (← parseBlockMapping n)

def parseBlockPart : Nat → NodeReader Node
  | 0 => failure
  | n + 1 => do
    if ← seesAny [.key, .value, .blockEnd] then return .absent
    parseNode true true n

def parseFlowSequence (first : Bool) : Nat → NodeReader (List Node)
  | 0 => failure
  | n + 1 => do
    if ← sees .flowSequenceEnd then drop; return []
    if !first then expect .flowEntry
    if ← sees .flowSequenceEnd then drop; return []
    let node ←
      if ← sees .key then drop; parsePair n
      else parseNode false false n
    return node :: (← parseFlowSequence false n)

/-- Reads a pair that is an entry of a flow sequence. If its key is missing, the token in its place
is dropped. -/
def parsePair : Nat → NodeReader Node
  | 0 => failure
  | n + 1 => do
    let key ←
      if ← seesAny [.value, .flowEntry, .flowSequenceEnd] then drop; pure .absent
      else parseNode false false n
    let value ←
      if ← sees .value then
        drop
        if ← seesAny [.flowEntry, .flowSequenceEnd] then pure .absent
        else parseNode false false n
      else pure .absent
    return .mapping [(key, value)]

def parseFlowMapping (first : Bool) : Nat → NodeReader (List (Node × Node))
  | 0 => failure
  | n + 1 => do
    if ← sees .flowMappingEnd then drop; return []
    if !first then expect .flowEntry
    if ← sees .flowMappingEnd then drop; return []
    let (key, value) ←
      if ← sees .key then
        drop
        let key ←
          if ← seesAny [.value, .flowEntry, .flowMappingEnd] then pure .absent
          else parseNode false false n
        let value ←
          if ← sees .value then
            drop
            if ← seesAny [.flowEntry, .flowMappingEnd] then pure .absent
            else parseNode false false n
          else pure .absent
        pure (key, value)
      else pure (← parseNode false false n, .absent)
    return (key, value) :: (← parseFlowMapping false n)

end

def defaultHandles : List (Text × Text) :=
  [("!", "!"), ("!!", "tag:yaml.org,2002:")]

def parseDirectives (version : Bool) : Nat → NodeReader Unit
  | 0 => failure
  | n + 1 => do
    match ← peek with
    | some (.version major minor) =>
      if version || major ≠ 1 || (minor ≠ 1 && minor ≠ 2) then failure
      drop
      parseDirectives true n
    | some (.handle handle start) =>
      drop
      let p ← get
      if (p.handles.lookup handle).isSome then failure
      set { p with handles := (handle, start) :: p.handles }
      parseDirectives version n
    | _ => modify fun p => { p with handles := p.handles ++ defaultHandles }

def dropEnds : Nat → NodeReader Unit
  | 0 => return
  | n + 1 => do
    if ← sees .documentEnd then drop; dropEnds n

def startsBare : Option Token → Bool
  | none | some (.version ..) | some (.handle ..) | some .documentStart => false
  | _ => true

def endsDocument : Option Token → Bool
  | none | some (.version ..) | some (.handle ..) | some .documentStart | some .documentEnd => true
  | _ => false

def parseDocument (steps : Nat) : NodeReader (Option Node) := do
  let token ← peek
  if token.isNone then return none
  parseDirectives false steps
  let root ←
    if startsBare token then parseNode true false steps
    else
      expect .documentStart
      if endsDocument (← peek) then pure .absent else parseNode true false steps
  dropEnds steps
  if (← peek).isSome then failure
  return some root

def Document.ofText? (t : Text) : Option Document := do
  let tokens ← Token.ofText? t
  let (root, p) ← (parseDocument (4 * tokens.length + 8)).run { tokens := tokens }
  some ⟨root, p.anchored⟩

end Grok.Yaml
