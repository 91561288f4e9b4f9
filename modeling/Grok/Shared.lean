import Grok.Compiler

namespace Grok

abbrev Shared := Option Compiler

namespace Shared

def setUp (engine : Engine) (shared : Shared) (config : Config) (tree : FileTree) :
    Shared × Report Unit :=
  match shared with
  | some c => (some c, .tell .sharedReady)
  | none =>
    let r := Compiler.ofConfig engine config tree
    match r.result with
    | .ok c => (some c, ⟨r.events ++ [.sharedReady], .ok ()⟩)
    | .error e => (none, ⟨r.events, .error e⟩)

def get (shared : Shared) : Except Error Compiler :=
  match shared with
  | some c => .ok c
  | none => .error .notInitialized

def setUpDefault (engine : Engine) (shared : Shared) (tree : FileTree) : Shared × Report Unit :=
  shared.setUp engine {} tree

def compile (shared : Shared) (expression : Text) : Report Pattern :=
  (Report.ofResult shared.get).andThen fun c => c.compile expression

/-- What a program asks of the shared compiler. A request to set it up reads the files as they are
at that time. -/
inductive Request where
  | setUpDefault (tree : FileTree)
  | setUp (config : Config) (tree : FileTree)
  | get
  | compile (expression : Text)

inductive Answer where
  | setUp (report : Report Unit)
  | compiler (result : Except Error Compiler)
  | pattern (report : Report Pattern)

def handle (engine : Engine) (shared : Shared) : Request → Shared × Answer
  | .setUpDefault tree =>
    let (shared, report) := shared.setUpDefault engine tree
    (shared, .setUp report)
  | .setUp config tree =>
    let (shared, report) := shared.setUp engine config tree
    (shared, .setUp report)
  | .get => (shared, .compiler shared.get)
  | .compile expression => (shared, .pattern (shared.compile expression))

def answers (engine : Engine) (shared : Shared) : List Request → List Answer
  | [] => []
  | request :: rest =>
    let (shared, answer) := shared.handle engine request
    answer :: answers engine shared rest

end Shared

end Grok
