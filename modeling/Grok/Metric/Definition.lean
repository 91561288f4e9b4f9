import Grok.Text.Basic

namespace Grok

structure LabelBinding where
  field : Text
  label : Text
deriving DecidableEq, Repr

structure MetricDefinition where
  name : Text
  help : Option Text := none
  expression : Option Text := none
  value : Option Text := none
  labels : List LabelBinding := []
deriving DecidableEq, Repr

namespace MetricDefinition

def references (m : MetricDefinition) : List Text := m.value.toList ++ m.labels.map (·.field)

def firstOfEqual : List Text → List Text
  | [] => []
  | t :: ts => t :: (firstOfEqual ts).filter (· ≠ t)

def requiredFields (m : MetricDefinition) : List Text := firstOfEqual m.references

end MetricDefinition

end Grok
