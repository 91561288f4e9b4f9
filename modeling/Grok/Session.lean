import Grok.Metric.Basic

/-!
Sessions: a compiler with numbered places for the patterns and metrics that are made with it. A step
that fails leaves the place where its result would have gone as it was.
-/

namespace Grok

abbrev Slots (α : Type) := List (Text × α)

namespace Slots

variable {α : Type}

def get? (slots : Slots α) (id : Text) : Option α := slots.lookup id

def erase (slots : Slots α) (id : Text) : Slots α := slots.filter fun slot => slot.1 ≠ id

def put (slots : Slots α) (id : Text) (a : α) : Slots α :=
  (slots.filter fun slot => slot.1 < id) ++ (id, a) :: slots.filter fun slot => id < slot.1

def ids (slots : Slots α) : List Text := slots.map (·.1)

end Slots

structure Session where
  compiler : Compiler
  patterns : Slots Pattern := []
  metrics : Slots Metric := []

namespace Session

def setMaxDepth (s : Session) (n : Nat) : Session :=
  { s with compiler := { s.compiler with maxDepth := n } }

def compile (s : Session) (id expression : Text) : Session × Report Pattern :=
  let r := s.compiler.compile expression
  match r.result with
  | .ok p => ({ s with patterns := s.patterns.put id p }, r)
  | .error _ => (s, r)

def free (s : Session) (id : Text) : Session := { s with patterns := s.patterns.erase id }

def keepMetric (s : Session) (id : Text) (r : Report Metric) : Session :=
  match r.result with
  | .ok m => { s with metrics := s.metrics.put id m }
  | .error _ => s

/-- Makes a metric of a pattern and a definition. The pattern leaves its place, even if this fails
or if there is no definition. -/
def takePattern (s : Session) (id : Text) (p : Pattern) (m : Except Error MetricDefinition) :
    Session × Report Metric :=
  let r := (Report.ofResult m).andThen fun m => Metric.ofParts m p
  ((s.free id).keepMetric id r, r)

def compileMetric (s : Session) (id : Text) (m : MetricDefinition) : Session × Report Metric :=
  let r := Metric.compile s.compiler m
  (s.keepMetric id r, r)

inductive Request where
  | setMaxDepth (n : Nat)
  | expand (expression : Text)
  | define (name : Text)
  | compile (id expression : Text)
  | look (id : Text)
  | captures (id line : Text)
  | isMatch (id line : Text)
  | free (id : Text)
  | verify (id : Text) (m : Except Error MetricDefinition)
  | takePattern (id : Text) (m : Except Error MetricDefinition)
  | compileMetric (id : Text) (m : MetricDefinition)
  | sample (id line : Text)
  | ids

inductive Answer where
  | done
  | empty
  | expanded (result : Except Error Text)
  | defined (names : Nat) (definition : Option Text)
  | pattern (report : Report Pattern)
  | captured (result : Except Error (Option (List (Text × Text))))
  | matched (result : Except Error Bool)
  | verified (report : Report Unit)
  | metric (report : Report Metric)
  | sampled (result : Except Error (Option Sample))
  | ids (patterns metrics : List Text)

def withPattern (s : Session) (id : Text) (answer : Pattern → Session × Answer) : Session × Answer :=
  match s.patterns.get? id with
  | some p => answer p
  | none => (s, .empty)

def handle (s : Session) : Request → Session × Answer
  | .setMaxDepth n => (s.setMaxDepth n, .done)
  | .expand expression => (s, .expanded (s.compiler.expand expression))
  | .define name => (s, .defined s.compiler.dictionary.size (s.compiler.dictionary.get? name))
  | .compile id expression =>
    let (s, report) := s.compile id expression
    (s, .pattern report)
  | .look id => s.withPattern id fun p => (s, .pattern (pure p))
  | .captures id line => s.withPattern id fun p => (s, .captured (p.captures line))
  | .isMatch id line => s.withPattern id fun p => (s, .matched (p.isMatch line))
  | .free id => s.withPattern id fun _ => (s.free id, .done)
  | .verify id m =>
    s.withPattern id fun p => (s, .verified ((Report.ofResult m).andThen fun m => m.verify p))
  | .takePattern id m =>
    s.withPattern id fun p =>
      let (s, report) := s.takePattern id p m
      (s, .metric report)
  | .compileMetric id m =>
    let (s, report) := s.compileMetric id m
    (s, .metric report)
  | .sample id line =>
    match s.metrics.get? id with
    | some m => (s, .sampled (m.sample line))
    | none => (s, .empty)
  | .ids => (s, .ids s.patterns.ids s.metrics.ids)

end Session

end Grok
