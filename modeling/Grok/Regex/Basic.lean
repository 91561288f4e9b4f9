import Grok.Regex.Backtracking.Parser
import Grok.Regex.Backtracking.Search

namespace Grok

/-- A regex. No two groups have one name, and group zero, which is the whole match, has none. -/
structure Regex where
  source : Text
  names : List (Option Text)
  /-- The first match in a text: what each group has captured, in the order of the groups. -/
  captures : Text → Except Text (Option (List (Option Text)))
  whole_unnamed : names[0]? = some none
  names_differ : ∀ (name : Text) (i j : Nat), names[i]? = some (some name) →
    names[j]? = some (some name) → i = j
  captures_length : ∀ line captured, captures line = .ok (some captured) →
    captured.length = names.length

/-- A regex engine. It keeps the source of a regex as it is, and says in a text of its own why it
refuses a source. -/
structure Engine where
  name : Text
  compile : Text → Except Text Regex
  source_of_compile : ∀ source r, compile source = .ok r → r.source = source

namespace Regex

def groups (r : Regex) : List (Nat × Text) :=
  r.names.zipIdx.filterMap fun (name, index) => name.map (index, ·)

def fields (r : Regex) (line : Text) : Except Text (Option (List (Text × Text))) :=
  (r.captures line).map fun found =>
    found.map fun captured =>
      r.groups.filterMap fun (index, name) => ((captured[index]?).join).map (name, ·)

inductive Dialect where
  | backtracking
  | linear
deriving DecidableEq, Repr

def Dialect.name : Dialect → Text
  | .backtracking => "fancy-regex"
  | .linear => "regex"

inductive Program where
  | linear (program : Linear.Program)
  | backtracking (program : Backtracking.Program)

def Program.find? (program : Program) (text : Array Char) :
    Except Failure (Option (Array (Option Nat))) :=
  match program with
  | .linear program => .ok (program.find? text)
  | .backtracking program => program.findFrom? text 0

def captured? (text : Array Char) (slots : Array (Option Nat)) (group : Nat) : Option Text :=
  match slots[2 * group]?, slots[2 * group + 1]? with
  | some (some first), some (some stop) => some (text.extract first stop).toList
  | _, _ => none

def Program.captures (program : Program) (groups : Nat) (line : Text) :
    Except Text (Option (List (Option Text))) :=
  let text := line.toArray
  match program.find? text with
  | .error failure => .error failure.message
  | .ok none => .ok none
  | .ok (some slots) => .ok (some ((List.range groups).map (captured? text slots)))

theorem Program.length_of_captures {program : Program} {groups : Nat} {line : Text}
    {captured : List (Option Text)} (h : program.captures groups line = .ok (some captured)) :
    captured.length = groups := by
  unfold Program.captures at h
  dsimp only at h
  split at h
  · cases h
  · cases h
  · cases h
    rw [List.length_map, List.length_range]

def firstOfEach : List (Text × Nat) → List (Text × Nat)
  | [] => []
  | (name, index) :: rest =>
    (name, index) :: (firstOfEach rest).filter fun entry => entry.1 ≠ name

theorem mem_firstOfEach_iff {named : List (Text × Nat)} {name : Text} {n : Nat} :
    (name, n) ∈ firstOfEach named ↔ named.lookup name = some n := by
  induction named with
  | nil => simp [firstOfEach]
  | cons entry rest ih =>
    obtain ⟨own, index⟩ := entry
    rw [firstOfEach, List.mem_cons, List.mem_filter, ih, List.lookup_cons]
    by_cases hown : name = own
    · simp [hown, eq_comm]
    · simp [hown, beq_false_of_ne hown]

/-- The names of groups up to a number, given by name. The first entry of a name counts. Numbers
that no name has belong to groups without a name, and so does number zero. -/
def namesUpTo (groups : Nat) (named : List (Text × Nat)) : List (Option Text) :=
  let named := firstOfEach named
  none :: (List.range groups).map fun i => (named.find? fun entry => entry.2 = i + 1).map (·.1)

theorem lookup_of_namesUpTo {groups n : Nat} {named : List (Text × Nat)} {name : Text}
    (h : (namesUpTo groups named)[n]? = some (some name)) : named.lookup name = some n := by
  cases n with
  | zero => cases h
  | succ n =>
    rw [namesUpTo, List.getElem?_cons_succ] at h
    simp only [List.getElem?_map, Option.map_eq_some_iff] at h
    obtain ⟨i, hi, ⟨own, index⟩, hfind, rfl⟩ := h
    obtain ⟨hlt, rfl⟩ := List.getElem?_eq_some_iff.mp hi
    have hindex : index = n + 1 := by simpa using List.find?_some hfind
    exact mem_firstOfEach_iff.mp (hindex ▸ List.mem_of_find?_eq_some hfind)

def ofProgram (source : Text) (groups : Nat) (named : List (Text × Nat)) (program : Program) :
    Regex where
  source := source
  names := namesUpTo groups named
  captures := program.captures (namesUpTo groups named).length
  whole_unnamed := rfl
  names_differ := by
    intro name i j hi hj
    exact Option.some.inj ((lookup_of_namesUpTo hi).symm.trans (lookup_of_namesUpTo hj))
  captures_length := fun _ _ => Program.length_of_captures

def compileLinear? (source : Text) : Option Regex := do
  let e ← Linear.Expr.parse? source
  let groups := e.groups
  let named := groups.filterMap fun (index, name) => name.map (·, index)
  some (ofProgram source (groups.foldl (fun n group => max n group.1) 0) named
    (.linear (.ofExpr e)))

/-- Compiles a regex of the backtracking dialect. An easy one is searched as a regex of the linear
dialect. Of groups with one name the last one has it. -/
def compileBacktracking? (source : Text) : Option Regex := do
  let s ← Backtracking.Source.parse? source
  if (s.expr.shape s.referenced).isHard then
    let program ← Backtracking.Program.ofExpr? s.expr s.groups s.referenced
    some (ofProgram source s.groups s.names (.backtracking program))
  else
    let e ← Linear.Expr.parse? (s.expr.written .outermost)
    some (ofProgram source s.groups s.names (.linear (.ofExpr e)))

def compile? : Dialect → Text → Option Regex
  | .backtracking => compileBacktracking?
  | .linear => compileLinear?

theorem exists_parse_of_compileLinear? {source : Text} {r : Regex}
    (h : compile? .linear source = some r) :
    ∃ e, Linear.Expr.parse? source = some e ∧ r.source = source ∧
      r.names = namesUpTo (e.groups.foldl (fun n group => max n group.1) 0)
        (e.groups.filterMap fun (index, name) => name.map (·, index)) := by
  obtain ⟨e, he, h⟩ := Option.bind_eq_some_iff.mp h
  cases h
  exact ⟨e, he, rfl, rfl⟩

theorem exists_parse_of_compileBacktracking? {source : Text} {r : Regex}
    (h : compile? .backtracking source = some r) :
    ∃ s, Backtracking.Source.parse? source = some s ∧ r.source = source ∧
      r.names = namesUpTo s.groups s.names := by
  obtain ⟨s, hs, h⟩ := Option.bind_eq_some_iff.mp h
  refine ⟨s, hs, ?_⟩
  split at h
  · obtain ⟨program, -, h⟩ := Option.bind_eq_some_iff.mp h
    cases h
    exact ⟨rfl, rfl⟩
  · obtain ⟨e, -, h⟩ := Option.bind_eq_some_iff.mp h
    cases h
    exact ⟨rfl, rfl⟩

theorem source_of_compile? {dialect : Dialect} {source : Text} {r : Regex}
    (h : compile? dialect source = some r) : r.source = source := by
  cases dialect with
  | linear =>
    obtain ⟨e, -, hsource, -⟩ := exists_parse_of_compileLinear? h
    exact hsource
  | backtracking =>
    obtain ⟨s, -, hsource, -⟩ := exists_parse_of_compileBacktracking? h
    exact hsource

/-- The engine of a dialect. Why a source is refused is told in the words of the library that the
dialect comes from, which are given. -/
def Dialect.engine (dialect : Dialect) (refusal : Text → Text) : Engine where
  name := dialect.name
  compile source :=
    match compile? dialect source with
    | some r => .ok r
    | none => .error (refusal source)
  source_of_compile := by
    intro source r h
    split at h
    next hr =>
      cases h
      exact source_of_compile? hr
    next => cases h

def Dialect.terse (dialect : Dialect) : Engine := dialect.engine fun _ => []

theorem Dialect.compile_engine_eq_ok_iff {dialect : Dialect} {refusal : Text → Text}
    {source : Text} {r : Regex} :
    (dialect.engine refusal).compile source = .ok r ↔ compile? dialect source = some r := by
  simp only [Dialect.engine]
  cases compile? dialect source <;> simp

end Regex

end Grok
