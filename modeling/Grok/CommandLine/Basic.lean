import Grok.Config
import Grok.Regex.Basic

namespace Grok.CommandLine

structure Options where
  patternsDir : Option Text := none
  noBuiltin : Bool := false
  dialect : Option Regex.Dialect := none
  maxDepth : Option Nat := none
  verbose : Bool := false
deriving DecidableEq, Repr

inductive Command where
  | compile (expression : Text)
  | verify (path : Text)
  | capture (expression line : Text)
deriving DecidableEq, Repr

structure Invocation where
  options : Options
  command : Command
deriving DecidableEq, Repr

namespace Options

def andThen (before after : Options) : Options where
  patternsDir := after.patternsDir.or before.patternsDir
  noBuiltin := before.noBuiltin || after.noBuiltin
  dialect := after.dialect.or before.dialect
  maxDepth := after.maxDepth.or before.maxDepth
  verbose := before.verbose || after.verbose

def config (o : Options) : Config where
  patternsDir := o.patternsDir.map Text.encoded
  builtinPatterns := !o.noBuiltin
  maxDepth := o.maxDepth.getD (Config.maxDepth {})
  verbose := o.verbose

end Options

end Grok.CommandLine
