import Grok.Library.Load
import Grok.Pattern

namespace Grok

structure Compiler where
  dictionary : Dictionary
  engine : Engine
  maxDepth : Nat := Config.maxDepth {}

namespace Compiler

def ofConfig (engine : Engine) (config : Config) (tree : FileTree) : Report Compiler :=
  (Library.load config tree).andThen fun dictionary =>
    pure { dictionary := dictionary, engine := engine, maxDepth := config.maxDepth }

def expand (c : Compiler) (expression : Text) : Except Error Text :=
  (c.dictionary.expand c.maxDepth expression).mapError .expansion

theorem expand_eq_ok_iff {c : Compiler} {expression out : Text} :
    c.expand expression = .ok out ↔ c.dictionary.expand c.maxDepth expression = .ok out := by
  unfold expand
  constructor
  · intro h
    cases hd : c.dictionary.expand c.maxDepth expression with
    | error cause =>
      rw [hd] at h
      cases h
    | ok text =>
      rw [hd] at h
      cases h
      rfl
  · intro h
    rw [h]
    rfl

theorem expand_eq_error_iff {c : Compiler} {expression : Text} {e : Error} :
    c.expand expression = .error e ↔
      ∃ cause, c.dictionary.expand c.maxDepth expression = .error cause ∧ e = .expansion cause := by
  unfold expand
  constructor
  · intro h
    cases hd : c.dictionary.expand c.maxDepth expression with
    | error cause =>
      rw [hd] at h
      cases h
      exact ⟨cause, rfl, rfl⟩
    | ok text =>
      rw [hd] at h
      cases h
  · rintro ⟨cause, hcause, rfl⟩
    rw [hcause]
    rfl

def compile (c : Compiler) (expression : Text) : Report Pattern :=
  (Report.ofResult (c.expand expression)).andThen fun source =>
    match c.engine.compile source with
    | .error message => .fail (.invalidRegex expression message)
    | .ok regex =>
      let p : Pattern := ⟨expression, regex⟩
      (Report.tell (.compiled c.engine.name expression p.source p.groups.length)).andThen
        fun _ => pure p

end Compiler

end Grok
