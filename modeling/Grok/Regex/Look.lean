import Grok.Unicode.Property

namespace Grok.Regex

inductive WordEdge where
  | boundary
  | notBoundary
  | start
  | stop
  | startHalf
  | stopHalf
deriving DecidableEq, Repr

inductive Look where
  | textStart
  | textEnd
  | lineStart
  | lineEnd
  | lineStartCR
  | lineEndCR
  | word (edge : WordEdge)
  | asciiWord (edge : WordEdge)
deriving DecidableEq, Repr

def isWord (c : Char) : Bool := Unicode.Property.word.contains c

def isAsciiWord (c : Char) : Bool := c.isAlphanum || c == '_'

def WordEdge.holds (before after : Bool) : WordEdge → Bool
  | .boundary => before != after
  | .notBoundary => before == after
  | .start => !before && after
  | .stop => before && !after
  | .startHalf => !before
  | .stopHalf => !after

def before? (text : Array Char) (i : Nat) : Option Char := if i = 0 then none else text[i - 1]?

def Look.holds (text : Array Char) (i : Nat) (look : Look) : Bool :=
  let before := before? text i
  let after := text[i]?
  match look with
  | .textStart => i == 0
  | .textEnd => i == text.size
  | .lineStart => i == 0 || before == some '\n'
  | .lineEnd => i == text.size || after == some '\n'
  | .lineStartCR =>
    i == 0 || before == some '\n' || (before == some '\r' && after != some '\n')
  | .lineEndCR =>
    i == text.size || after == some '\r' || (after == some '\n' && before != some '\r')
  | .word edge => edge.holds (before.any isWord) (after.any isWord)
  | .asciiWord edge => edge.holds (before.any isAsciiWord) (after.any isAsciiWord)

end Grok.Regex
