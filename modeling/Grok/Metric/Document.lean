import Grok.Error
import Grok.Metric.Definition
import Grok.Yaml.Parser

namespace Grok

open Yaml

namespace MetricDefinition

structure Part where
  anchored : List (Nat × Node)
  node : Node

namespace Part

def resolved (p : Part) : Node := p.node.resolve p.anchored

def text? (p : Part) : Option Text :=
  match p.resolved with
  | .scalar t _ _ => some t
  | _ => none

/-- A text, or none for a plain scalar that is empty or a word for no value. Other scalars cannot be
tagged as having no value. -/
def optionalText? (p : Part) : Option (Option Text) :=
  match p.resolved with
  | .scalar t true none => some (if t.isEmpty || Node.isNullWord t then none else some t)
  | .scalar t true (some tag) =>
    if tag ≠ Node.nullTag then some (some t) else if Node.isNullWord t then some none else none
  | .scalar t false _ => some (some t)
  | _ => none

def items? (p : Part) : Option (List Part) :=
  match p.resolved with
  | .sequence items => some (items.map fun node => ⟨p.anchored, node⟩)
  | node => if node.isAbsent then some [] else none

def entries? (p : Part) : Option (List (Text × Part)) :=
  match p.resolved with
  | .mapping entries =>
    entries.mapM fun (key, value) =>
      (text? ⟨p.anchored, key⟩).map (·, (⟨p.anchored, value⟩ : Part))
  | node => if node.isAbsent then some [] else none

def value? (entries : List (Text × Part)) (key : Text) : Option (Option Part) :=
  match entries.filter fun entry => entry.1 = key with
  | [] => some none
  | [entry] => some (some entry.2)
  | _ => none

def required? (entries : List (Text × Part)) (key : Text) : Option Text := do
  (← ← value? entries key).text?

def optional? (entries : List (Text × Part)) (key : Text) : Option (Option Text) := do
  match ← value? entries key with
  | none => some none
  | some p => p.optionalText?

def list? {α : Type} (entries : List (Text × Part)) (key : Text) (item : Part → Option α) :
    Option (List α) := do
  match ← value? entries key with
  | none => some []
  | some p => (← p.items?).mapM item

end Part

def labelOf? (p : Part) : Option LabelBinding := do
  let entries ← p.entries?
  some ⟨← Part.required? entries "grok_field_name", ← Part.required? entries "prometheus_label"⟩

def of? (p : Part) : Option MetricDefinition := do
  let entries ← p.entries?
  some {
    name := ← Part.required? entries "name"
    help := ← Part.optional? entries "help"
    expression := ← Part.optional? entries "match"
    value := ← Part.optional? entries "value"
    labels := ← Part.list? entries "labels" labelOf? }

def listOf? (p : Part) : Option (List MetricDefinition) := do
  Part.list? (← p.entries?) "metrics" of?

def Part.ofDocument (d : Document) : Part := ⟨d.anchored, d.root.getD .absent⟩

def labelNode (b : LabelBinding) : Node :=
  .mapping [
    (.quoted "grok_field_name", .quoted b.field), (.quoted "prometheus_label", .quoted b.label)]

def toNode (m : MetricDefinition) : Node :=
  let optional (key : Text) (value : Option Text) : List (Node × Node) :=
    value.toList.map fun t => (.quoted key, .quoted t)
  .mapping (
    (.quoted "name", .quoted m.name) :: optional "help" m.help ++
      optional "match" m.expression ++ optional "value" m.value ++
      if m.labels.isEmpty then [] else [(.quoted "labels", .sequence (m.labels.map labelNode))])

/-- Reads a definition from the text of a document. Why a document is refused is told in the words of
the decoder, which are given. -/
def ofText (refusal : Text → Text) (t : Text) : Except Error MetricDefinition :=
  match (Document.ofText? t).bind fun d => of? (.ofDocument d) with
  | some m => .ok m
  | none => .error (.yaml (refusal t))

def listOfText (refusal : Text → Text) (t : Text) : Except Error (List MetricDefinition) :=
  match (Document.ofText? t).bind fun d => listOf? (.ofDocument d) with
  | some ms => .ok ms
  | none => .error (.yaml (refusal t))

end MetricDefinition

end Grok
