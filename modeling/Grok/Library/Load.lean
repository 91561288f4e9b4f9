import Grok.Config
import Grok.Library.Builtin
import Grok.Library.Directory

namespace Grok.Library

def builtinPart (config : Config) : Report Dictionary :=
  if config.builtinPatterns then builtin else pure ∅

def directoryPart (config : Config) (tree : FileTree) : Report Dictionary :=
  match config.patternsDir with
  | none => pure ∅
  | some path => ofDirectory tree path

def load (config : Config) (tree : FileTree) : Report Dictionary :=
  (builtinPart config).andThen fun base =>
    (directoryPart config tree).andThen fun own =>
      let replaced := base.common own
      let d := base.merge own
      let events := if replaced.isEmpty then [] else [.builtinReplaced replaced]
      (Report.tellAll events).andThen fun _ =>
        if d.isEmpty then .fail (.load .noPatterns)
        else (Report.tell (.dictionaryLoaded d.size)).andThen fun _ => pure d

end Grok.Library
