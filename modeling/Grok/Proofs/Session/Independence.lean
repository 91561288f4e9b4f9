import Grok.Proofs.Metric.Acceptance
import Grok.Session

namespace Grok

namespace Slots

variable {α : Type}

theorem get?_erase (slots : Slots α) (id other : Text) :
    (slots.erase id).get? other = if other = id then none else slots.get? other := by
  rw [erase, get?, lookup_filter (fun own => decide (own ≠ id))]
  by_cases h : other = id <;> simp [h, get?]

theorem get?_put (slots : Slots α) (id other : Text) (a : α) :
    (slots.put id a).get? other = if other = id then some a else slots.get? other := by
  rw [put, get?, List.lookup_append, lookup_filter (fun own => decide (own < id)), List.lookup_cons,
    lookup_filter (fun own => decide (id < own))]
  by_cases h : other = id
  · subst h
    simp
  · have hne : (other == id) = false := by simpa using h
    rw [hne, if_neg h]
    by_cases hlt : other < id
    · have hgt : ¬id < other := fun hgt => Text.lt_irrefl id (Text.lt_trans hgt hlt)
      simp [hlt, hgt, get?]
    · have hgt : id < other := by
        by_contra hgt
        exact h (Text.eq_of_not_lt hlt hgt)
      simp [hlt, hgt, get?]

end Slots

namespace Session

namespace Request

def limit? : Request → Option Nat
  | .setMaxDepth n => some n
  | _ => none

def patternPlace? : Request → Option Text
  | .compile id _ | .free id | .takePattern id _ => some id
  | _ => none

def metricPlace? : Request → Option Text
  | .takePattern id _ | .compileMetric id _ => some id
  | _ => none

def patternAsked? : Request → Option Text
  | .look id | .captures id _ | .isMatch id _ | .free id | .verify id _ | .takePattern id _ => some id
  | _ => none

end Request

def after (s : Session) (requests : List Request) : Session :=
  requests.foldl (fun s request => (s.handle request).1) s

def freshCompiler (s : Session) (requests : List Request) : Compiler where
  dictionary := s.compiler.dictionary
  engine := s.compiler.engine
  maxDepth := (requests.reverse.findSome? Request.limit?).getD s.compiler.maxDepth

inductive Change (s : Session) : Request → Session → Prop
  | nothing {request : Request} (hlimit : request.limit? = none) : Change s request s
  | limit (n : Nat) : Change s (.setMaxDepth n) (s.setMaxDepth n)
  | pattern {id expression : Text} {p : Pattern}
      (hp : (s.compiler.compile expression).result = .ok p) :
      Change s (.compile id expression) { s with patterns := s.patterns.put id p }
  | free {id : Text} : Change s (.free id) (s.free id)
  | taken {id : Text} {p : Pattern} {d : Except Error MetricDefinition}
      (hp : s.patterns.get? id = some p) : Change s (.takePattern id d) (s.takePattern id p d).1
  | metric {id : Text} {d : MetricDefinition} {m : Metric}
      (hm : (Metric.compile s.compiler d).result = .ok m) :
      Change s (.compileMetric id d) { s with metrics := s.metrics.put id m }

variable {s t : Session} {request : Request} {requests : List Request} {id other : Text}

theorem withPattern_of_some {p : Pattern} (h : s.patterns.get? id = some p)
    (answer : Pattern → Session × Answer) : s.withPattern id answer = answer p := by
  rw [withPattern, h]

theorem withPattern_of_none (h : s.patterns.get? id = none) (answer : Pattern → Session × Answer) :
    s.withPattern id answer = (s, .empty) := by
  rw [withPattern, h]

theorem keepMetric_of_ok {report : Report Metric} {m : Metric} (h : report.result = .ok m) :
    s.keepMetric id report = { s with metrics := s.metrics.put id m } := by
  rw [keepMetric, h]

theorem keepMetric_of_error {report : Report Metric} {e : Error} (h : report.result = .error e) :
    s.keepMetric id report = s := by
  rw [keepMetric, h]

theorem handle_compile_of_ok {expression : Text} {p : Pattern}
    (h : (s.compiler.compile expression).result = .ok p) :
    (s.handle (.compile id expression)).1 = { s with patterns := s.patterns.put id p } := by
  simp only [handle, compile, h]

theorem handle_compile_of_error {expression : Text} {e : Error}
    (h : (s.compiler.compile expression).result = .error e) :
    (s.handle (.compile id expression)).1 = s := by
  simp only [handle, compile, h]

theorem handle_compile_snd (s : Session) (id expression : Text) :
    (s.handle (.compile id expression)).2 = .pattern (s.compiler.compile expression) := by
  cases h : (s.compiler.compile expression).result <;> simp only [handle, compile, h]

theorem handle_compileMetric (s : Session) (id : Text) (d : MetricDefinition) :
    s.handle (.compileMetric id d) =
      (s.keepMetric id (Metric.compile s.compiler d), .metric (Metric.compile s.compiler d)) := rfl

theorem withPattern_asking_fst (s : Session) (id : Text) (answer : Pattern → Answer) :
    (s.withPattern id fun p => (s, answer p)).1 = s := by
  unfold withPattern
  split <;> rfl

theorem handle_takePattern {p : Pattern} (h : s.patterns.get? id = some p)
    (d : Except Error MetricDefinition) :
    s.handle (.takePattern id d) = ((s.takePattern id p d).1, .metric (s.takePattern id p d).2) :=
  withPattern_of_some h _

theorem change_handle (s : Session) (request : Request) : Change s request (s.handle request).1 := by
  cases request with
  | setMaxDepth n => exact .limit n
  | expand expression => exact .nothing rfl
  | define name => exact .nothing rfl
  | compile id expression =>
    cases h : (s.compiler.compile expression).result with
    | error e =>
      rw [handle_compile_of_error h]
      exact .nothing rfl
    | ok p =>
      rw [handle_compile_of_ok h]
      exact .pattern h
  | compileMetric id d =>
    rw [handle_compileMetric]
    cases h : (Metric.compile s.compiler d).result with
    | error e =>
      rw [keepMetric_of_error h]
      exact .nothing rfl
    | ok m =>
      rw [keepMetric_of_ok h]
      exact .metric h
  | sample id line =>
    rw [handle]
    split <;> exact .nothing rfl
  | ids => exact .nothing rfl
  | look id =>
    rw [handle, withPattern_asking_fst]
    exact .nothing rfl
  | captures id line =>
    rw [handle, withPattern_asking_fst]
    exact .nothing rfl
  | isMatch id line =>
    rw [handle, withPattern_asking_fst]
    exact .nothing rfl
  | verify id d =>
    rw [handle, withPattern_asking_fst]
    exact .nothing rfl
  | free id =>
    cases hp : s.patterns.get? id with
    | none =>
      rw [handle, withPattern_of_none hp]
      exact .nothing rfl
    | some p =>
      rw [handle, withPattern_of_some hp]
      exact .free
  | takePattern id d =>
    cases hp : s.patterns.get? id with
    | none =>
      rw [handle, withPattern_of_none hp]
      exact .nothing rfl
    | some p =>
      rw [handle_takePattern hp]
      exact .taken hp

theorem takePattern_fst (s : Session) (id : Text) (p : Pattern) (d : Except Error MetricDefinition) :
    (s.takePattern id p d).1 = (s.free id).keepMetric id (s.takePattern id p d).2 := rfl

theorem keepMetric_compiler (s : Session) (id : Text) (report : Report Metric) :
    (s.keepMetric id report).compiler = s.compiler := by
  unfold keepMetric
  split <;> rfl

theorem keepMetric_patterns (s : Session) (id : Text) (report : Report Metric) :
    (s.keepMetric id report).patterns = s.patterns := by
  unfold keepMetric
  split <;> rfl

theorem get?_metrics_keepMetric (report : Report Metric) (h : other ≠ id) :
    (s.keepMetric id report).metrics.get? other = s.metrics.get? other := by
  unfold keepMetric
  split
  · exact (Slots.get?_put _ _ _ _).trans (if_neg h)
  · rfl

theorem Change.compiler_eq (h : Change s request t) :
    t.compiler = { s.compiler with maxDepth := request.limit?.getD s.compiler.maxDepth } := by
  cases h with
  | nothing hlimit => rw [hlimit, Option.getD_none]
  | limit n => rfl
  | pattern hp => rfl
  | free => rfl
  | taken hp => exact keepMetric_compiler _ _ _
  | metric hm => rfl

theorem Change.get?_patterns (h : Change s request t) (hother : request.patternPlace? ≠ some other) :
    t.patterns.get? other = s.patterns.get? other := by
  cases h with
  | nothing hlimit => rfl
  | limit n => rfl
  | @pattern id _ _ hp =>
    have hne : other ≠ id := fun heq => hother (heq ▸ rfl)
    exact (Slots.get?_put _ _ _ _).trans (if_neg hne)
  | @free id =>
    have hne : other ≠ id := fun heq => hother (heq ▸ rfl)
    exact (Slots.get?_erase _ _ _).trans (if_neg hne)
  | @taken id _ _ hp =>
    have hne : other ≠ id := fun heq => hother (heq ▸ rfl)
    rw [takePattern_fst, keepMetric_patterns]
    exact (Slots.get?_erase _ _ _).trans (if_neg hne)
  | metric hm => rfl

theorem Change.get?_metrics (h : Change s request t) (hother : request.metricPlace? ≠ some other) :
    t.metrics.get? other = s.metrics.get? other := by
  cases h with
  | nothing hlimit => rfl
  | limit n => rfl
  | pattern hp => rfl
  | free => rfl
  | @taken id _ _ hp =>
    have hne : other ≠ id := fun heq => hother (heq ▸ rfl)
    exact get?_metrics_keepMetric _ hne
  | @metric id _ _ hm =>
    have hne : other ≠ id := fun heq => hother (heq ▸ rfl)
    exact (Slots.get?_put _ _ _ _).trans (if_neg hne)

theorem after_cons (s : Session) (request : Request) (rest : List Request) :
    s.after (request :: rest) = (s.handle request).1.after rest := rfl

theorem compiler_after (s : Session) (requests : List Request) :
    (s.after requests).compiler = s.freshCompiler requests := by
  induction requests generalizing s with
  | nil => rfl
  | cons request rest ih =>
    rw [after_cons, ih, freshCompiler, freshCompiler, (change_handle s request).compiler_eq]
    congr 1
    rw [List.reverse_cons, List.findSome?_append, List.findSome?_singleton]
    cases rest.reverse.findSome? Request.limit? <;> rfl

theorem get?_patterns_after (s : Session)
    (hother : ∀ request ∈ requests, request.patternPlace? ≠ some other) :
    (s.after requests).patterns.get? other = s.patterns.get? other := by
  induction requests generalizing s with
  | nil => rfl
  | cons request rest ih =>
    rw [List.forall_mem_cons] at hother
    rw [after_cons, ih _ hother.2]
    exact (change_handle s request).get?_patterns hother.1

theorem get?_metrics_after (s : Session)
    (hother : ∀ request ∈ requests, request.metricPlace? ≠ some other) :
    (s.after requests).metrics.get? other = s.metrics.get? other := by
  induction requests generalizing s with
  | nil => rfl
  | cons request rest ih =>
    rw [List.forall_mem_cons] at hother
    rw [after_cons, ih _ hother.2]
    exact (change_handle s request).get?_metrics hother.1

theorem handle_snd_of_patternAsked (hasked : request.patternAsked? = some id)
    (hget : t.patterns.get? id = s.patterns.get? id) :
    (t.handle request).2 = (s.handle request).2 := by
  cases hp : s.patterns.get? id with
  | none =>
    rw [hp] at hget
    cases request <;> cases hasked <;> simp only [handle, withPattern_of_none hp, withPattern_of_none hget]
  | some p =>
    rw [hp] at hget
    cases request <;> cases hasked <;>
      simp only [handle, withPattern_of_some hp, withPattern_of_some hget, takePattern]

theorem handle_sample_snd {line : Text} (hget : t.metrics.get? id = s.metrics.get? id) :
    (t.handle (.sample id line)).2 = (s.handle (.sample id line)).2 := by
  rw [handle, handle, hget]
  cases s.metrics.get? id <;> rfl

/-- A session after some requests, whichever of them have failed. Its compiler answers as a new one
would; what a place holds and what is answered about it depend on the requests that name the place; and
a failure leaves everything as it was, but for the pattern that a metric has been tried with. -/
structure Independent (s : Session) (requests : List Request) (t : Session) : Prop where
  dictionary : t.compiler.dictionary = s.compiler.dictionary
  expand (expression : Text) : (t.handle (.expand expression)).2 =
    .expanded ((s.freshCompiler requests).expand expression)
  compile (id expression : Text) : (t.handle (.compile id expression)).2 =
    .pattern ((s.freshCompiler requests).compile expression)
  compileMetric (id : Text) (d : MetricDefinition) : (t.handle (.compileMetric id d)).2 =
    .metric (Metric.compile (s.freshCompiler requests) d)
  pattern_kept {id : Text} (hother : ∀ request ∈ requests, request.patternPlace? ≠ some id) :
    t.patterns.get? id = s.patterns.get? id ∧
      ∀ request, request.patternAsked? = some id → (t.handle request).2 = (s.handle request).2
  metric_kept {id : Text} (hother : ∀ request ∈ requests, request.metricPlace? ≠ some id) :
    t.metrics.get? id = s.metrics.get? id ∧
      ∀ line, (t.handle (.sample id line)).2 = (s.handle (.sample id line)).2
  pattern_put {id expression : Text} {p : Pattern}
    (hp : ((s.freshCompiler requests).compile expression).result = .ok p) :
    (t.handle (.compile id expression)).1.patterns.get? id = some p
  metric_put {id : Text} {d : MetricDefinition} {m : Metric}
    (hm : (Metric.compile (s.freshCompiler requests) d).result = .ok m) :
    (t.handle (.compileMetric id d)).1.metrics.get? id = some m
  failed_compile {id expression : Text} {e : Error}
    (he : ((s.freshCompiler requests).compile expression).result = .error e) :
    (t.handle (.compile id expression)).1 = t
  failed_compileMetric {id : Text} {d : MetricDefinition} {e : Error}
    (he : (Metric.compile (s.freshCompiler requests) d).result = .error e) :
    (t.handle (.compileMetric id d)).1 = t
  taken {id : Text} {p : Pattern} (hp : t.patterns.get? id = some p)
    (d : Except Error MetricDefinition) :
    let report := (Report.ofResult d).andThen fun d => Metric.ofParts d p
    (t.handle (.takePattern id d)).2 = .metric report ∧
      (t.handle (.takePattern id d)).1.patterns.get? id = none ∧
      (∀ m, report.result = .ok m →
        (t.handle (.takePattern id d)).1.metrics.get? id = some m) ∧
      ∀ e, report.result = .error e → (t.handle (.takePattern id d)).1.metrics = t.metrics

theorem runs_keep_results_independent (s : Session) (requests : List Request) :
    Independent s requests (s.after requests) := by
  have hcompiler := compiler_after s requests
  -- from here on the compiler is all that counts of the run, but for the places that are kept
  generalize ht : s.after requests = t at hcompiler
  constructor
  case dictionary => rw [hcompiler, freshCompiler]
  case expand => rw [← hcompiler]; exact fun _ => rfl
  case compile => rw [← hcompiler]; exact handle_compile_snd t
  case compileMetric => rw [← hcompiler]; exact fun _ _ => rfl
  case pattern_kept =>
    intro id hother
    have hget := get?_patterns_after s hother
    rw [ht] at hget
    exact ⟨hget, fun request hasked => handle_snd_of_patternAsked hasked hget⟩
  case metric_kept =>
    intro id hother
    have hget := get?_metrics_after s hother
    rw [ht] at hget
    exact ⟨hget, fun line => handle_sample_snd hget⟩
  case pattern_put =>
    intro id expression p hp
    rw [← hcompiler] at hp
    rw [handle_compile_of_ok hp, Slots.get?_put, if_pos rfl]
  case metric_put =>
    intro id d m hm
    rw [← hcompiler] at hm
    rw [handle_compileMetric, keepMetric_of_ok hm, Slots.get?_put, if_pos rfl]
  case failed_compile =>
    intro id expression e he
    rw [← hcompiler] at he
    exact handle_compile_of_error he
  case failed_compileMetric =>
    intro id d e he
    rw [← hcompiler] at he
    rw [handle_compileMetric, keepMetric_of_error he]
  case taken =>
    intro id p hp d report
    have hfree : (t.free id).patterns.get? id = none :=
      (Slots.get?_erase _ _ _).trans (if_pos rfl)
    have hkeep : (t.handle (.takePattern id d)).1 = (t.free id).keepMetric id report := by
      rw [handle_takePattern hp]
      rfl
    rw [hkeep, keepMetric_patterns, handle_takePattern hp]
    refine ⟨rfl, hfree, fun m hm => ?_, fun e he => ?_⟩
    · rw [keepMetric_of_ok hm, Slots.get?_put, if_pos rfl]
    · rw [keepMetric_of_error he, free]

theorem pattern_outlives_failures_and_is_taken :
    let c : Compiler :=
      { dictionary := .ofList [("DIGIT", "[0-9]"), ("PAIR", "%{DIGIT}%{DIGIT}")]
        engine := Regex.Dialect.linear.terse }
    let s := (Session.handle { compiler := c } (.compile "a" "[0-9]")).1
    let d : MetricDefinition := { name := "m", value := some "_" }
    let t := s.after [.setMaxDepth 0, .compile "b" "%{PAIR}", .verify "a" (.ok d)]
    ∃ p, (c.compile "[0-9]").result = .ok p ∧ t.patterns.get? "a" = some p ∧
      (t.handle (.compile "a" "%{PAIR}")).1 = t ∧
      (Metric.ofParts d p).result = .error (.missingFields ["_"]) ∧
      (t.handle (.takePattern "a" (.ok d))).1.patterns.get? "a" = none := by
  intro c s d t
  have hexpand : c.expand "[0-9]" = .ok "[0-9]" := by cbv
  have hregex : (Regex.compile? .linear "[0-9]").map (·.names) = some [none] := by decide +kernel
  obtain ⟨r, hr, hnames⟩ := Option.map_eq_some_iff.mp hregex
  have hp : (c.compile "[0-9]").result = .ok ⟨"[0-9]", r⟩ :=
    Compiler.result_compile_of_dialect rfl hexpand hr
  have hput : s.patterns.get? "a" = some ⟨"[0-9]", r⟩ :=
    (runs_keep_results_independent { compiler := c } []).pattern_put hp
  have hrun := runs_keep_results_independent s
    [.setMaxDepth 0, .compile "b" "%{PAIR}", .verify "a" (.ok d)]
  have hkept : t.patterns.get? "a" = some ⟨"[0-9]", r⟩ :=
    (hrun.pattern_kept (by decide)).1.trans hput
  have hs : s.compiler = c := congrArg Session.compiler (handle_compile_of_ok hp)
  let place : Place := ⟨.expression "%{PAIR}", "%{PAIR}"⟩
  have hdeep : (s.freshCompiler [.setMaxDepth 0, .compile "b" "%{PAIR}", .verify "a" (.ok d)]).expand
      "%{PAIR}" = .error (.expansion (.tooDeep 0 place)) := by
    have hzero : c.dictionary.expand 0 "%{PAIR}" = .error (.tooDeep 0 place) := by cbv
    rw [freshCompiler, hs, Compiler.expand_eq_error_iff]
    exact ⟨_, hzero, rfl⟩
  have hmissing : (Metric.ofParts d ⟨"[0-9]", r⟩).result = .error (.missingFields ["_"]) := by
    have hfields : d.missingFields ⟨"[0-9]", r⟩ = [("_" : Text)] := by
      rw [MetricDefinition.missingFields_eq_filter, hnames]
      decide
    have hne : d.missingFields ⟨"[0-9]", r⟩ ≠ [] := by
      rw [hfields]
      decide
    rw [Metric.result_ofParts, dif_neg hne, hfields]
  exact ⟨_, hp, hkept, hrun.failed_compile (Compiler.result_compile_of_error hdeep), hmissing,
    (hrun.taken hkept (.ok d)).2.1⟩

end Session

end Grok
