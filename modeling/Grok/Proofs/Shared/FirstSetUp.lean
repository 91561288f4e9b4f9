import Grok.Shared
import Mathlib

namespace Grok.Shared

variable (engine : Engine)

def Request.loaded? : Request → Option (Report Compiler)
  | .setUpDefault tree => some (Compiler.ofConfig engine {} tree)
  | .setUp config tree => some (Compiler.ofConfig engine config tree)
  | _ => none

def Request.made? (request : Request) : Option Compiler :=
  (request.loaded? engine).bind fun loaded => loaded.result.toOption

inductive AnsweredWithout : Request → Answer → Prop
  | setUp {request : Request} {loaded : Report Compiler} {report : Report Unit}
      (hload : request.loaded? engine = some loaded)
      (hresult : report.result = loaded.result.map fun _ => ()) :
      AnsweredWithout request (.setUp report)
  | get : AnsweredWithout .get (.compiler (.error .notInitialized))
  | compile (expression : Text) :
      AnsweredWithout (.compile expression) (.pattern (.fail .notInitialized))

inductive AnsweredBy (c : Compiler) : Request → Answer → Prop
  | setUp {request : Request} {loaded : Report Compiler} {report : Report Unit}
      (hload : request.loaded? engine = some loaded) (hresult : report.result = .ok ()) :
      AnsweredBy c request (.setUp report)
  | get : AnsweredBy c .get (.compiler (.ok c))
  | compile (expression : Text) :
      AnsweredBy c (.compile expression) (.pattern (c.compile expression))

def stateAfter (shared : Shared) (requests : List Request) : Shared :=
  requests.foldl (fun shared request => (shared.handle engine request).1) shared

variable {engine} {c : Compiler} {request : Request}

theorem setUp_none_fst (config : Config) (tree : FileTree) :
    (setUp engine none config tree).1 = (Compiler.ofConfig engine config tree).result.toOption := by
  unfold setUp
  cases h : (Compiler.ofConfig engine config tree).result <;> simp [h, Except.toOption]

theorem setUp_none_result (config : Config) (tree : FileTree) :
    (setUp engine none config tree).2.result =
      (Compiler.ofConfig engine config tree).result.map fun _ => () := by
  unfold setUp
  cases h : (Compiler.ofConfig engine config tree).result <;> simp [h, Except.map]

theorem handle_setUp_fst (shared : Shared) (config : Config) (tree : FileTree) :
    (shared.handle engine (.setUp config tree)).1 = (shared.setUp engine config tree).1 := rfl

theorem handle_setUp_snd (shared : Shared) (config : Config) (tree : FileTree) :
    (shared.handle engine (.setUp config tree)).2 = .setUp (shared.setUp engine config tree).2 := rfl

-- for any state: with the state known, the two sides would be compared by loading the library
theorem handle_setUpDefault (shared : Shared) (tree : FileTree) :
    shared.handle engine (.setUpDefault tree) = shared.handle engine (.setUp {} tree) := rfl

theorem made?_setUp (config : Config) (tree : FileTree) :
    (Request.setUp config tree).made? engine =
      (Compiler.ofConfig engine config tree).result.toOption := rfl

theorem made?_setUpDefault (tree : FileTree) :
    (Request.setUpDefault tree).made? engine = (Request.setUp {} tree).made? engine := rfl

theorem handle_fst (shared : Shared) (request : Request) :
    (shared.handle engine request).1 = shared.or (request.made? engine) := by
  cases shared with
  | some c => cases request <;> rfl
  | none =>
    cases request with
    | setUpDefault tree =>
      rw [handle_setUpDefault, handle_setUp_fst, setUp_none_fst, Option.none_or, made?_setUpDefault,
        made?_setUp]
    | setUp config tree => rw [handle_setUp_fst, setUp_none_fst, Option.none_or, made?_setUp]
    | get => rfl
    | compile expression => rfl

theorem answeredWithout_handle (request : Request) :
    AnsweredWithout engine request (handle engine none request).2 := by
  cases request with
  | setUpDefault tree =>
    rw [handle_setUpDefault, handle_setUp_snd]
    exact .setUp rfl (setUp_none_result {} tree)
  | setUp config tree => exact .setUp rfl (setUp_none_result config tree)
  | get => exact .get
  | compile expression => exact .compile expression

theorem answeredBy_handle (c : Compiler) (request : Request) :
    AnsweredBy engine c request (handle engine (some c) request).2 := by
  cases request with
  | setUpDefault tree => exact .setUp rfl rfl
  | setUp config tree => exact .setUp rfl rfl
  | get => exact .get
  | compile expression => exact .compile expression

theorem stateAfter_eq (shared : Shared) (requests : List Request) :
    stateAfter engine shared requests = shared.or (requests.findSome? (·.made? engine)) := by
  induction requests generalizing shared with
  | nil => simp [stateAfter]
  | cons request rest ih =>
    have hstep : stateAfter engine shared (request :: rest) =
        stateAfter engine (shared.handle engine request).1 rest := rfl
    rw [hstep, ih, handle_fst, Option.or_assoc, List.findSome?_cons]
    cases request.made? engine <;> rfl

theorem getElem?_answers (shared : Shared) (before : List Request) (request : Request)
    (after : List Request) :
    (answers engine shared (before ++ request :: after))[before.length]? =
      some ((stateAfter engine shared before).handle engine request).2 := by
  induction before generalizing shared with
  | nil => rfl
  | cons first rest ih => exact ih (shared.handle engine first).1

/-- Until a request makes a compiler, uses are refused and requests to set one up tell how its loading
ends. The compiler that is made first answers all requests after that. -/
theorem first_success_answers_ever_after (engine : Engine) (before after : List Request)
    (request : Request) :
    ∃ answer, (answers engine none (before ++ request :: after))[before.length]? = some answer ∧
      ((∀ earlier ∈ before, earlier.made? engine = none) →
        AnsweredWithout engine request answer) ∧
      ∀ failed first later c, before = failed ++ first :: later →
        (∀ earlier ∈ failed, earlier.made? engine = none) → first.made? engine = some c →
          AnsweredBy engine c request answer := by
  refine ⟨_, getElem?_answers none before request after, ?_, ?_⟩
  · intro hnone
    rw [stateAfter_eq, List.findSome?_eq_none_iff.mpr hnone]
    exact answeredWithout_handle request
  · intro failed first later c hbefore hfailed hfirst
    rw [stateAfter_eq, List.findSome?_eq_some_iff.mpr ⟨failed, first, later, hbefore, hfirst, hfailed⟩]
    exact answeredBy_handle c request

theorem success_between_failures :
    let tree : FileTree := ⟨.directory [("bad", .directory [("a", .file "X\n".toUTF8)]),
      ("good", .directory [("a", .file "X x\n".toUTF8)])], []⟩
    let engine := Regex.Dialect.backtracking.terse
    let bad : Request := .setUp { patternsDir := some "bad", builtinPatterns := false } tree
    let good : Request := .setUp { patternsDir := some "good", builtinPatterns := false } tree
    (∀ earlier ∈ [.get, bad], earlier.made? engine = none) ∧
      (∃ answer, (answers engine none [.get, bad, .compile "%{X}", good])[2]? = some answer ∧
        AnsweredWithout engine (.compile "%{X}") answer) ∧
      ∃ c, good.made? engine = some c ∧ c.dictionary.get? "X" = some ("x" : Text) ∧
        ∃ answer, (answers engine none [.get, bad, good, bad, .get])[4]? = some answer ∧
          AnsweredBy engine c .get answer := by
  intro tree engine bad good
  have hbad : (bad.made? engine).isNone := by cbv
  have hgood : (good.made? engine).map (·.dictionary.get? "X") = some (some ("x" : Text)) := by cbv
  obtain ⟨c, hc, hX⟩ := Option.map_eq_some_iff.mp hgood
  have hfailed : ∀ earlier ∈ [.get, bad], earlier.made? engine = none := by
    intro earlier hmem
    rcases List.mem_pair.mp hmem with rfl | rfl
    · rfl
    · exact Option.isNone_iff_eq_none.mp hbad
  obtain ⟨early, hearly, hwithout, -⟩ :=
    first_success_answers_ever_after engine [.get, bad] [good] (.compile "%{X}")
  obtain ⟨late, hlate, -, hby⟩ :=
    first_success_answers_ever_after engine [.get, bad, good, bad] [] .get
  exact ⟨hfailed, ⟨early, hearly, hwithout hfailed⟩, c, hc, hX, late, hlate,
    hby [.get, bad] good [bad] c rfl hfailed hc⟩

end Grok.Shared
