import Grok.Expansion
import Grok.FileTree.Path
import Grok.Text.Quoted

namespace Grok

def Place.message (place : Place) : Text :=
  match place.origin with
  | .expression text => "表达式「" ++ text ++ "」中的 " ++ place.token
  | .definition name text => "模式 " ++ name ++ " 的定义「" ++ text ++ "」中的 " ++ place.token

namespace ExpansionError

def message : ExpansionError → Text
  | .invalidPlaceholder place => "非法占位符 " ++ place.token ++ "（位于：" ++ place.message ++ "）"
  | .undefinedPattern name place => "模式 " ++ name ++ " 未定义（位于：" ++ place.message ++ "）"
  | .cyclicPattern participants => "模式存在循环引用：" ++ Text.join " -> " participants
  | .tooDeep limit place => "模式嵌套层数超过上限 " ++ Text.ofNat limit ++ "：" ++ place.message

end ExpansionError

inductive LineProblem where
  | missingDefinition (line : Text)
  | illegalName (name : Text)
deriving DecidableEq, Repr

namespace LineProblem

def message : LineProblem → Text
  | .missingDefinition line => "模式 " ++ line ++ " 缺少定义"
  | .illegalName name => "非法模式名称：" ++ name

end LineProblem

inductive ReadError where
  | notFound
  | notADirectory
  | isADirectory
  | tooManyLinks
  | notText
deriving DecidableEq, Repr

namespace ReadError

def message : ReadError → Text
  | .notFound => "No such file or directory (os error 2)"
  | .notADirectory => "Not a directory (os error 20)"
  | .isADirectory => "Is a directory (os error 21)"
  | .tooManyLinks => "Too many levels of symbolic links (os error 40)"
  | .notText => "stream did not contain valid UTF-8"

end ReadError

inductive WalkFailure where
  | unreachable (path : Path) (cause : ReadError)
  | loop (path ancestor : Path)
deriving DecidableEq, Repr

namespace WalkFailure

def message : WalkFailure → Text
  | .unreachable path cause =>
    "IO error for operation on " ++ path.display ++ ": " ++ cause.message
  | .loop path ancestor =>
    "File system loop found: " ++ path.display ++ " points to an ancestor " ++ ancestor.display

end WalkFailure

inductive LoadError where
  | noPatterns
  | noDirectory (path : Text)
  | brokenEntry (directory : Text) (cause : WalkFailure)
  | unreadable (path : Text) (cause : ReadError)
deriving DecidableEq, Repr

namespace LoadError

def message : LoadError → Text
  | .noPatterns => "未配置任何模式来源（内置模式库已禁用且未指定模式目录）"
  | .noDirectory path => "模式目录不存在或不是目录：" ++ path
  | .brokenEntry directory cause => "遍历模式目录失败：" ++ directory ++ " - " ++ cause.message
  | .unreadable path cause => "读取模式文件失败：" ++ path ++ " - " ++ cause.message

end LoadError

inductive Error where
  | expansion (cause : ExpansionError)
  /-- The expansion of an expression is no regex. The expression is given as it was written, and the
  message is the engine's. -/
  | invalidRegex (expression message : Text)
  | missingFields (fields : List Text)
  | patternLine (origin : Text) (line : Nat) (problem : LineProblem)
  | load (cause : LoadError)
  | missingMatch (metric : Text)
  | yaml (message : Text)
  | invalidValue (field value : Text)
  | search (message : Text)
  | notInitialized
deriving DecidableEq, Repr

namespace Error

def message : Error → Text
  | .expansion cause => cause.message
  | .invalidRegex expression message =>
    "grok 表达式「" ++ expression ++ "」不是合法正则：" ++ message
  | .missingFields fields => "grok 模式中不存在字段：" ++ Text.join ", " fields
  | .patternLine origin line problem =>
    "模式文件解析失败：" ++ origin ++ " 第 " ++ Text.ofNat line ++ " 行：" ++ problem.message
  | .load cause => "模式加载失败：" ++ cause.message
  | .missingMatch metric => "配置无效：指标 " ++ metric ++ " 缺少 match 表达式"
  | .yaml message => "YAML解析失败：" ++ message
  | .invalidValue field value => "字段 " ++ field ++ " 的值 " ++ value.quote ++ " 不是合法数字"
  | .search message => "匹配失败：" ++ message
  | .notInitialized => "全局编译器未初始化"

def cause? : Error → Option Text
  | .yaml message => some message
  | _ => none

end Error

end Grok
