import Grok.Text.Basic

namespace Grok.Regex

inductive Failure where
  | tooManyBacktracks
  | tooManyChoices
deriving DecidableEq, Repr

def Failure.message : Failure → Text
  | .tooManyBacktracks => "Error executing regex: Max limit for backtracking count exceeded"
  | .tooManyChoices => "Error executing regex: Max stack size exceeded"

end Grok.Regex
