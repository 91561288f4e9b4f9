import Grok.Compiler
import Grok.Proofs.Expansion.Path

/-!
Expansion step by step, on a machine with one path for the whole run. Entering a definition puts its
name on the path, and the end of the definition takes it off again. Every run ends with the result
of the expansion, and in every state of a run the path is a simple path through the dictionary.
-/

namespace Grok.Machine

structure Frame where
  text : Text
  written : Text
  holes : List (Text × Text)

def Frame.ofText (text : Text) : Frame :=
  ⟨text, (Template.ofText text).lead, (Template.ofText text).holes⟩

structure Caller where
  frame : Frame
  placeholder : Placeholder
  following : Text

def Caller.resume (c : Caller) (inner : Text) : Frame :=
  { c.frame with written := c.frame.written ++ (c.placeholder.wrap inner ++ c.following) }

inductive State where
  | running (path : List Text) (frame : Frame) (callers : List Caller)
  | halted (result : Except ExpansionError Text)

def start (expression : Text) : State := .running [] (.ofText expression) []

def step (d : Dictionary) (limit : Nat) : State → State
  | .halted result => .halted result
  | .running _ ⟨_, written, []⟩ [] => .halted (.ok written)
  | .running path ⟨_, written, []⟩ (c :: callers) => .running path.tail (c.resume written) callers
  | .running path ⟨text, written, (body, following) :: rest⟩ callers =>
    match d.check limit ⟨path, text, body⟩ with
    | .error e => .halted (.error e)
    | .ok (p, definition) =>
      .running (p.name :: path) (.ofText definition)
        (⟨⟨text, written, rest⟩, p, following⟩ :: callers)

def Runs (d : Dictionary) (limit : Nat) (s t : State) : Prop := ∃ n, (step d limit)^[n] s = t

variable {d : Dictionary} {limit : Nat} {path : List Text} {text written : Text}
  {holes : List (Text × Text)} {callers : List Caller}

theorem Runs.refl (s : State) : Runs d limit s s := ⟨0, rfl⟩

theorem Runs.step {s t : State} (h : Runs d limit (step d limit s) t) : Runs d limit s t := by
  obtain ⟨n, hn⟩ := h
  exact ⟨n + 1, by rw [Function.iterate_succ_apply, hn]⟩

theorem Runs.trans {s t u : State} (h : Runs d limit s t) (h' : Runs d limit t u) :
    Runs d limit s u := by
  obtain ⟨n, rfl⟩ := h
  obtain ⟨m, rfl⟩ := h'
  exact ⟨m + n, Function.iterate_add_apply _ m n s⟩

theorem step_fault {body following : Text} {rest : List (Text × Text)} {e : ExpansionError}
    (h : Occurrence.Fault d limit ⟨path, text, body⟩ e) :
    step d limit (.running path ⟨text, written, (body, following) :: rest⟩ callers) =
      .halted (.error e) := by
  simp only [step, Dictionary.check_eq_error_iff.mpr h]

theorem step_enter {body following definition : Text} {rest : List (Text × Text)} {p : Placeholder}
    (h : Occurrence.Enters d limit ⟨path, text, body⟩ p definition) :
    step d limit (.running path ⟨text, written, (body, following) :: rest⟩ callers) =
      .running (p.name :: path) (.ofText definition)
        (⟨⟨text, written, rest⟩, p, following⟩ :: callers) := by
  simp only [step, Dictionary.check_eq_ok_iff.mpr h]

def State.afterHoles (path : List Text) (text written : Text) (callers : List Caller) :
    Except ExpansionError Text → State
  | .error e => .halted (.error e)
  | .ok out => .running path ⟨text, written ++ out, []⟩ callers

theorem runs_expandHoles (path : List Text) (text : Text) (holes : List (Text × Text))
    (written : Text) (callers : List Caller) :
    Runs d limit (.running path ⟨text, written, holes⟩ callers)
      (.afterHoles path text written callers (d.expandHoles limit path text holes)) := by
  induction path, text, holes using Dictionary.expandHoles_induction d limit
    generalizing written callers with
  | nil path text =>
    rw [Dictionary.expandHoles_nil, State.afterHoles, List.append_nil]
    exact .refl _
  | fault path text body following rest e hfault =>
    rw [Dictionary.expandHoles_of_fault hfault]
    apply Runs.step
    rw [step_fault hfault]
    exact .refl _
  | enter path text body following rest p definition henter ihinner ihrest =>
    rw [Dictionary.expandHoles_of_enters henter, Dictionary.expandWithin_eq]
    apply Runs.step
    rw [step_enter henter]
    have hinner := ihinner (Template.ofText definition).lead
      (⟨⟨text, written, rest⟩, p, following⟩ :: callers)
    cases hin : d.expandHoles limit (p.name :: path) definition
        (Template.ofText definition).holes with
    | error e =>
      rw [hin] at hinner
      exact hinner
    | ok filled =>
      rw [hin] at hinner
      let out := p.wrap ((Template.ofText definition).lead ++ filled) ++ following
      have hrest := ihrest (written ++ out) callers
      apply hinner.trans
      apply Runs.step
      cases hr : d.expandHoles limit path text rest with
      | error e =>
        rw [hr] at hrest
        exact hrest
      | ok remaining =>
        rw [hr, State.afterHoles, List.append_assoc] at hrest
        exact hrest

theorem runs_expand (expression : Text) :
    Runs d limit (start expression) (.halted (d.expand limit expression)) := by
  have hrun : Runs d limit (start expression) _ := runs_expandHoles [] expression
    (Template.ofText expression).holes (Template.ofText expression).lead []
  unfold Dictionary.expand
  rw [Dictionary.expandWithin_eq]
  cases h : d.expandHoles limit [] expression (Template.ofText expression).holes with
  | error e =>
    rw [h] at hrun
    exact hrun
  | ok out =>
    rw [h] at hrun
    exact hrun.trans (.step (.refl _))

structure Frame.OnTrail (d : Dictionary) (limit : Nat) (expression : Text) (path : List Text)
    (f : Frame) : Prop where
  trail : d.Trail limit expression path f.text
  holes : ∀ hole ∈ f.holes, hole ∈ (Template.ofText f.text).holes

/-- Each name on the path belongs to the caller that entered its definition. -/
inductive Suspended (d : Dictionary) (limit : Nat) (expression : Text) :
    List Text → List Caller → Prop
  | nil : Suspended d limit expression [] []
  | cons {name : Text} {path : List Text} {c : Caller} {callers : List Caller}
      (hframe : c.frame.OnTrail d limit expression path)
      (hcallers : Suspended d limit expression path callers) :
      Suspended d limit expression (name :: path) (c :: callers)

inductive State.Consistent (d : Dictionary) (limit : Nat) (expression : Text) : State → Prop
  | running {path : List Text} {frame : Frame} {callers : List Caller}
      (hframe : frame.OnTrail d limit expression path)
      (hcallers : Suspended d limit expression path callers) :
      Consistent d limit expression (.running path frame callers)
  | halted (result : Except ExpansionError Text) : Consistent d limit expression (.halted result)

variable {expression : Text}

theorem consistent_start : (start expression).Consistent d limit expression :=
  .running ⟨.start, fun _ hole => hole⟩ .nil

theorem consistent_step {s : State} (h : s.Consistent d limit expression) :
    (step d limit s).Consistent d limit expression := by
  cases h with
  | halted result => exact .halted result
  | @running path frame callers hframe hcallers =>
    obtain ⟨text, written, holes⟩ := frame
    cases holes with
    | nil =>
      cases hcallers with
      | nil => exact .halted (.ok written)
      | cons hcaller hcallers => exact .running ⟨hcaller.trail, hcaller.holes⟩ hcallers
    | cons hole rest =>
      obtain ⟨body, following⟩ := hole
      have hrest : Frame.OnTrail d limit expression path ⟨text, written, rest⟩ :=
        ⟨hframe.trail, fun hole hmem => hframe.holes hole (List.mem_cons_of_mem _ hmem)⟩
      cases hc : d.check limit ⟨path, text, body⟩ with
      | error e =>
        rw [step_fault (Dictionary.check_eq_error_iff.mp hc)]
        exact .halted (.error e)
      | ok entered =>
        obtain ⟨p, definition⟩ := entered
        have henter := Dictionary.check_eq_ok_iff.mp hc
        have hdefinition := hframe.trail.enter (hframe.holes _ List.mem_cons_self) henter
        rw [step_enter henter]
        exact .running ⟨hdefinition, fun _ hole => hole⟩ (.cons hrest hcallers)

theorem consistent_iterate (n : Nat) :
    ((step d limit)^[n] (start expression)).Consistent d limit expression := by
  induction n with
  | zero => exact consistent_start
  | succ n ih =>
    rw [Function.iterate_succ_apply']
    exact consistent_step ih

theorem trail_of_iterate {n : Nat} {frame : Frame}
    (h : (step d limit)^[n] (start expression) = .running path frame callers) :
    d.Trail limit expression path frame.text := by
  have hc : State.Consistent d limit expression (.running path frame callers) :=
    h ▸ consistent_iterate n
  cases hc with
  | running hframe hcallers => exact hframe.trail

end Grok.Machine

namespace Grok.Compiler

theorem expand_error_cases {c : Compiler} {expression : Text}
    (hsize : c.dictionary.size ≤ c.maxDepth) :
    (∃ out, c.expand expression = .ok out) ∨
      (∃ place, c.expand expression = .error (.expansion (.invalidPlaceholder place))) ∨
      (∃ name place, c.expand expression = .error (.expansion (.undefinedPattern name place))) ∨
      ∃ participants, c.expand expression = .error (.expansion (.cyclicPattern participants)) := by
  cases h : c.expand expression with
  | ok out => exact .inl ⟨out, rfl⟩
  | error e =>
    obtain ⟨cause, hcause, rfl⟩ := expand_eq_error_iff.mp h
    cases cause with
    | invalidPlaceholder place => exact .inr (.inl ⟨place, rfl⟩)
    | undefinedPattern name place => exact .inr (.inr (.inl ⟨name, place, rfl⟩))
    | cyclicPattern participants => exact .inr (.inr (.inr ⟨participants, rfl⟩))
    | tooDeep n place => exact absurd hcause (Dictionary.expand_ne_tooDeep hsize n place)

/-- Expansion ends for every dictionary and every limit, on paths without repetitions. -/
theorem expansion_halts_on_simple_paths (c : Compiler) (expression : Text) :
    (∃ n result, (Machine.step c.dictionary c.maxDepth)^[n] (Machine.start expression) =
        .halted result ∧ c.expand expression = result.mapError .expansion) ∧
    (∀ n path frame callers, (Machine.step c.dictionary c.maxDepth)^[n] (Machine.start expression) =
        .running path frame callers →
      path.Nodup ∧ (∀ name ∈ path, name ∈ c.dictionary.names) ∧
        path.length ≤ min c.maxDepth c.dictionary.size) ∧
    (c.dictionary.size ≤ c.maxDepth →
      (∃ out, c.expand expression = .ok out) ∨
      (∃ place, c.expand expression = .error (.expansion (.invalidPlaceholder place))) ∨
      (∃ name place, c.expand expression = .error (.expansion (.undefinedPattern name place))) ∨
      ∃ participants, c.expand expression = .error (.expansion (.cyclicPattern participants))) := by
  refine ⟨?_, ?_, expand_error_cases⟩
  · have hrun : Machine.Runs c.dictionary c.maxDepth (Machine.start expression) _ :=
      Machine.runs_expand expression
    obtain ⟨n, hn⟩ := hrun
    exact ⟨n, _, hn, rfl⟩
  · intro n path frame callers h
    have htrail := Machine.trail_of_iterate h
    exact ⟨htrail.nodup, htrail.mem_names,
      le_min htrail.length_le_limit (Dictionary.length_le_size htrail.nodup htrail.mem_names)⟩

theorem cyclic_pair_halts :
    let c : Compiler :=
      { dictionary := .ofList [("A", "%{B}"), ("B", "x%{A:a}")], maxDepth := 2 ^ 64 - 1
        engine := Regex.Dialect.backtracking.terse }
    let inner : Machine.Frame := ⟨"x%{A:a}", "x", [("A:a", "")]⟩
    let callers : List Machine.Caller :=
      [⟨⟨"%{B}", "", []⟩, ⟨"B", none⟩, ""⟩, ⟨⟨"%{A}", "", []⟩, ⟨"A", none⟩, ""⟩]
    (Machine.step c.dictionary c.maxDepth)^[2] (Machine.start "%{A}") =
        .running ["B", "A"] inner callers ∧
      (["B", "A"] : List Text).length ≤ min c.maxDepth c.dictionary.size ∧
      c.dictionary.size ≤ c.maxDepth ∧ ∀ n place,
        c.expand "%{A}" ≠ .error (.expansion (.tooDeep n place)) := by
  intro c inner callers
  have hrun : (Machine.step c.dictionary c.maxDepth)^[2] (Machine.start "%{A}") =
      .running ["B", "A"] inner callers := by cbv
  have hsize : c.dictionary.size ≤ c.maxDepth := by decide
  obtain ⟨hhalts, hpaths, hcases⟩ := expansion_halts_on_simple_paths c "%{A}"
  refine ⟨hrun, (hpaths 2 _ _ _ hrun).2.2, hsize, ?_⟩
  intro n place hdeep
  rcases hcases hsize with ⟨out, h⟩ | ⟨place, h⟩ | ⟨name, place, h⟩ | ⟨participants, h⟩
  all_goals
    rw [h] at hdeep
    cases hdeep

end Grok.Compiler
