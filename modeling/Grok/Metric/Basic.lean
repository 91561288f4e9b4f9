import Grok.Compiler
import Grok.Metric.Definition
import Grok.Metric.Sample
import Grok.Number.Decimal
import Grok.Text.Blank

namespace Grok

namespace MetricDefinition

def missingFields (m : MetricDefinition) (p : Pattern) : List Text :=
  m.requiredFields.filter (!p.hasGroup ·)

def verify (m : MetricDefinition) (p : Pattern) : Report Unit :=
  let missing := m.missingFields p
  if missing = [] then pure ()
  else
    (Report.tell (.fieldsMissing m.name missing p.expression)).andThen fun _ =>
      .fail (.missingFields missing)

end MetricDefinition

structure Metric where
  definition : MetricDefinition
  pattern : Pattern
  complete : definition.missingFields pattern = []

namespace Metric

def ofParts (m : MetricDefinition) (p : Pattern) : Report Metric :=
  (m.verify p).andThen fun _ =>
    if h : m.missingFields p = [] then pure ⟨m, p, h⟩
    else .fail (.missingFields (m.missingFields p))

def compile (c : Compiler) (m : MetricDefinition) : Report Metric :=
  match m.expression with
  | none => .fail (.missingMatch m.name)
  | some expression => (c.compile expression).andThen (ofParts m)

def captured (fields : List (Text × Text)) (field : Text) : Text := (fields.lookup field).getD []

def valueOf (m : MetricDefinition) (fields : List (Text × Text)) : Except Error (Option Number) :=
  match m.value with
  | none => .ok none
  | some field =>
    let text := captured fields field
    match Number.parse? text.trim with
    | some n => .ok (some n)
    | none => .error (.invalidValue field text)

def sample (m : Metric) (line : Text) : Except Error (Option Sample) := do
  match ← m.pattern.captures line with
  | none => return none
  | some fields =>
    let value ← valueOf m.definition fields
    let labels := m.definition.labels.map fun b => (b.label, captured fields b.field)
    return some ⟨value, labels⟩

end Metric

end Grok
