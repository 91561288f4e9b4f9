import Grok.FileTree.Path

namespace Grok

structure Config where
  patternsDir : Option Path := none
  builtinPatterns : Bool := true
  /-- How many definitions may enclose a placeholder. -/
  maxDepth : Nat := 64
  verbose : Bool := false
deriving DecidableEq, Repr

instance : Inhabited Config := ⟨{}⟩

end Grok
