import Grok.Error

namespace Grok

inductive Event where
  | lineRedefined (origin : Text) (line : Nat) (name : Text)
  | fileRedefined (name path : Text)
  | directoryLoaded (path : Text) (files patterns : Nat)
  | builtinReplaced (names : List Text)
  | dictionaryLoaded (size : Nat)
  | compiled (engine expression source : Text) (groups : Nat)
  | fieldsMissing (metric : Text) (fields : List Text) (expression : Text)
  | sharedReady
deriving DecidableEq, Repr

namespace Event

def isWarning : Event → Bool
  | .lineRedefined .. | .fileRedefined .. => true
  | _ => false

def message : Event → Text
  | .lineRedefined origin line name =>
    origin ++ " 第 " ++ Text.ofNat line ++ " 行：模式 " ++ name ++ " 被重复定义，采用后者"
  | .fileRedefined name path => "模式 " ++ name ++ " 被重复定义，采用 " ++ path ++ " 中的定义"
  | .directoryLoaded path files patterns =>
    "从目录 " ++ path ++ " 加载模式文件" ++ Text.ofNat files ++ "个，模式" ++
      Text.ofNat patterns ++ "条"
  | .builtinReplaced names => "模式目录覆盖了内置模式：" ++ Text.join ", " names
  | .dictionaryLoaded size => "模式字典加载完成，模式总数：" ++ Text.ofNat size
  | .compiled engine expression source groups =>
    "grok 编译完成 [" ++ engine ++ "]：" ++ expression ++ " -> " ++ source ++ "，命名分组" ++
      Text.ofNat groups ++ "个"
  | .fieldsMissing metric fields expression =>
    "指标 " ++ metric ++ " 引用的字段 " ++ Text.quoteList fields ++ " 不在模式 " ++ expression ++
      " 的命名分组中"
  | .sharedReady => "全局 grok 编译器已就绪"

end Event

structure Report (α : Type) where
  events : List Event
  result : Except Error α

namespace Report

def ofResult {α : Type} (result : Except Error α) : Report α := ⟨[], result⟩

def andThen {α β : Type} (r : Report α) (f : α → Report β) : Report β :=
  match r.result with
  | .error e => ⟨r.events, .error e⟩
  | .ok a => let s := f a; ⟨r.events ++ s.events, s.result⟩

instance : Monad Report where
  pure a := ofResult (.ok a)
  bind := andThen

def fail {α : Type} (e : Error) : Report α := ofResult (.error e)

def tell (event : Event) : Report Unit := ⟨[event], .ok ()⟩

def tellAll (events : List Event) : Report Unit := ⟨events, .ok ()⟩

end Report

end Grok
