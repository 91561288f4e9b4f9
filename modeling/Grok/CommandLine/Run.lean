import Grok.CommandLine.Parse
import Grok.Metric.Basic
import Grok.Metric.Document

namespace Grok.CommandLine

/-- The libraries that a program is built on: the engines of the dialects, and in which words the
decoder refuses a document. -/
structure Libraries where
  engine : Regex.Dialect → Engine
  refusal : Text → Text

inductive Failure where
  | library (cause : Error)
  | dictionary (cause : Error)
  | unreadable (path : Text) (cause : ReadError)
  | notMetrics (path : Text) (cause : Error)
  | failedMetrics (count : Nat)
  | noMatch
deriving DecidableEq, Repr

namespace Failure

def summary : Failure → Text
  | .library cause => cause.message
  | .dictionary _ => "加载模式字典失败"
  | .unreadable path _ => "读取指标配置失败：" ++ path
  | .notMetrics path _ => "解析指标配置失败：" ++ path
  | .failedMetrics count => Text.ofNat count ++ " 个指标校验失败"
  | .noMatch => "日志行与表达式不匹配"

def causes : Failure → List Text
  | .library cause => cause.cause?.toList
  | .dictionary cause => cause.message :: cause.cause?.toList
  | .unreadable _ cause => [cause.message]
  | .notMetrics _ cause => cause.message :: cause.cause?.toList
  | .failedMetrics _ | .noMatch => []

def indented (columns : Nat) (t : Text) : Text :=
  t.flatMap fun c => if c = '\n' then '\n' :: List.replicate columns ' ' else [c]

def numbered (number : Nat) (cause : Text) : Text :=
  let n := Text.ofNat number
  List.replicate (5 - n.length) ' ' ++ n ++ ": " ++ indented 7 cause

def toText (f : Failure) : Text :=
  let causes :=
    match f.causes with
    | [] => []
    | [cause] => "\n\nCaused by:\n    " ++ indented 4 cause
    | causes =>
      "\n\nCaused by:" ++ (causes.zipIdx).flatMap fun (cause, i) => '\n' :: numbered i cause
  "Error: " ++ f.summary ++ causes ++ "\n"

end Failure

structure Outcome where
  events : List Event := []
  output : Text := []
  failure : Option Failure := none

namespace Outcome

def ofReport {α : Type} (r : Report α) (fail : Error → Failure) (f : α → Outcome) : Outcome :=
  match r.result with
  | .error e => ⟨r.events, [], some (fail e)⟩
  | .ok a => let o := f a; { o with events := r.events ++ o.events }

end Outcome

def groupLine (name : Text) (index : Nat) : Text :=
  let n := Text.ofNat index
  "  " ++ List.replicate (3 - n.length) ' ' ++ n ++ "  " ++ name ++ "\n"

def compile (c : Compiler) (expression : Text) : Outcome :=
  .ofReport (c.compile expression) .library fun p =>
    { output := p.source ++ '\n' :: p.groups.flatMap fun (name, index) => groupLine name index }

def verdict (m : MetricDefinition) (r : Report Metric) : Text :=
  match r.result with
  | .ok _ => "ok    " ++ m.name ++ "\n"
  | .error e => "FAIL  " ++ m.name ++ ": " ++ e.message ++ "\n"

/-- How far a check of metrics has come: what has been told and written, and how many have failed. The
program counts failures in 32 bits, with a sign; the counts are the same for fewer than 2^31
definitions. -/
structure Tally where
  events : List Event := []
  output : Text := []
  failed : Nat := 0

namespace Tally

def step (c : Compiler) (t : Tally) (m : MetricDefinition) : Tally :=
  let r := Metric.compile c m
  let failed :=
    match r.result with
    | .ok _ => t.failed
    | .error _ => t.failed + 1
  ⟨t.events ++ r.events, t.output ++ verdict m r, failed⟩

def outcome (t : Tally) : Outcome where
  events := t.events
  output := t.output
  failure := if 0 < t.failed then some (.failedMetrics t.failed) else none

end Tally

def verifyAll (c : Compiler) (ms : List MetricDefinition) : Outcome :=
  (ms.foldl (Tally.step c) {}).outcome

def verify (refusal : Text → Text) (c : Compiler) (tree : FileTree) (path : Text) : Outcome :=
  match tree.read path.encoded with
  | .error e => { failure := some (.unreadable path e) }
  | .ok text =>
    match MetricDefinition.listOfText refusal text with
    | .error e => { failure := some (.notMetrics path e) }
    | .ok ms => verifyAll c ms

def capture (c : Compiler) (expression line : Text) : Outcome :=
  .ofReport (c.compile expression) .library fun p =>
    match p.captures line with
    | .error e => { failure := some (.library e) }
    | .ok none => { failure := some .noMatch }
    | .ok (some fields) =>
      let sorted := fields.mergeSort fun a b => a.1.atMost b.1
      { output := sorted.flatMap fun (name, value) => name ++ '=' :: value.quote ++ ['\n'] }

def run (libraries : Libraries) (i : Invocation) (tree : FileTree) : Outcome :=
  let config := i.options.config
  .ofReport (Library.load config tree) .dictionary fun dictionary =>
    let c : Compiler :=
      ⟨dictionary, libraries.engine (i.options.dialect.getD .backtracking), config.maxDepth⟩
    match i.command with
    | .compile expression => compile c expression
    | .verify path => verify libraries.refusal c tree path
    | .capture expression line => capture c expression line

structure Exit where
  code : Nat
  output : Text := []
  errors : Text := []

def version : Text := "rsgrok 0.1.0\n"

def usage : Text := "Usage: rsgrok [OPTIONS] <COMMAND>\n"

def eventLine (e : Event) : Text :=
  (if e.isWarning then ("WARN " : Text) else "DEBUG ") ++ e.message ++ "\n"

def dialectWarning (o : Options) : Text :=
  if o.dialect = some .linear && !o.noBuiltin then
    "WARN std 引擎不支持环视与原子分组，引用此类内置模式的表达式会编译失败\n"
  else []

def exit (libraries : Libraries) (args : List Text) (tree : FileTree) : Exit :=
  match parse args with
  | .error .usage => { code := 2, errors := usage }
  | .error .help => { code := 0, output := usage }
  | .error .version => { code := 0, output := version }
  | .ok i =>
    let o := run libraries i tree
    let told := dialectWarning i.options ++
      (o.events.filter fun e => i.options.verbose || e.isWarning).flatMap eventLine
    match o.failure with
    | none => ⟨0, o.output, told⟩
    | some f => ⟨1, o.output, told ++ f.toText⟩

end Grok.CommandLine
