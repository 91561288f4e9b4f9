import Grok.Metric.Basic
import Grok.Proofs.Pattern.Compiled

namespace Grok

namespace MetricDefinition

variable {d : MetricDefinition} {p : Pattern} {field : Text}

theorem mem_firstOfEqual {t : Text} {ts : List Text} : t ∈ firstOfEqual ts ↔ t ∈ ts := by
  induction ts with
  | nil => rfl
  | cons head rest ih =>
    rw [firstOfEqual, List.mem_cons, List.mem_cons, List.mem_filter, ih]
    by_cases h : t = head <;> simp [h]

theorem mem_requiredFields_iff : field ∈ d.requiredFields ↔ field ∈ d.references := mem_firstOfEqual

theorem missingFields_eq_filter (d : MetricDefinition) (p : Pattern) :
    d.missingFields p = d.requiredFields.filter fun field => some field ∉ p.regex.names := by
  unfold missingFields
  congr 1
  funext field
  by_cases h : some field ∈ p.regex.names
  · simp [h, Pattern.hasGroup_iff.mpr h]
  · have hgroup : ¬p.hasGroup field = true := mt Pattern.hasGroup_iff.mp h
    simp [h, hgroup]

theorem missingFields_eq_nil_iff :
    d.missingFields p = [] ↔ ∀ field ∈ d.requiredFields, some field ∈ p.regex.names := by
  rw [missingFields_eq_filter, List.filter_eq_nil_iff]
  simp

end MetricDefinition

namespace Metric

variable {c : Compiler} {d : MetricDefinition} {p : Pattern} {m : Metric} {expression : Text}
  {e : Error}

theorem result_ofParts (d : MetricDefinition) (p : Pattern) :
    (ofParts d p).result = if h : d.missingFields p = [] then .ok ⟨d, p, h⟩
      else .error (.missingFields (d.missingFields p)) := by
  rw [ofParts, Report.result_andThen, MetricDefinition.verify]
  split_ifs <;> rfl

theorem ofParts_eq_ok_iff : (ofParts d p).result = .ok m ↔ m.definition = d ∧ m.pattern = p := by
  rw [result_ofParts]
  constructor
  · intro h
    split_ifs at h
    cases h
    exact ⟨rfl, rfl⟩
  · rintro ⟨rfl, rfl⟩
    rw [dif_pos m.complete]

theorem result_compile_of_expression (c : Compiler) (h : d.expression = some expression) :
    (compile c d).result = (c.compile expression).result.bind fun p => (ofParts d p).result := by
  rw [compile, h]
  exact Report.result_andThen _ _

theorem result_compile_of_pattern (h : d.expression = some expression)
    (hp : (c.compile expression).result = .ok p) : (compile c d).result = (ofParts d p).result := by
  rw [result_compile_of_expression c h, hp]
  rfl

structure Accepted (c : Compiler) (d : MetricDefinition) (m : Metric) : Prop where
  definition : m.definition = d
  expression : d.expression = some m.pattern.expression
  expansion : c.expand m.pattern.expression = .ok m.pattern.source
  regex : c.engine.compile m.pattern.source = .ok m.pattern.regex

inductive Rejected (c : Compiler) (d : MetricDefinition) : Error → Prop
  | noExpression (hexpression : d.expression = none) : Rejected c d (.missingMatch d.name)
  | expansion {expression : Text} {e : Error} (hexpression : d.expression = some expression)
      (hexpand : c.expand expression = .error e) : Rejected c d e
  | regex {expression source message : Text} (hexpression : d.expression = some expression)
      (hexpand : c.expand expression = .ok source)
      (hregex : c.engine.compile source = .error message) :
      Rejected c d (.invalidRegex expression message)
  | fields {expression source field : Text} {regex : Regex}
      (hexpression : d.expression = some expression) (hexpand : c.expand expression = .ok source)
      (hregex : c.engine.compile source = .ok regex) (hfield : field ∈ d.requiredFields)
      (hmissing : some field ∉ regex.names) :
      Rejected c d (.missingFields (d.requiredFields.filter fun field => some field ∉ regex.names))

theorem Accepted.result_compile (h : Accepted c d m) : (compile c d).result = .ok m := by
  rw [result_compile_of_expression c h.expression, Compiler.result_compile h.expansion, h.regex]
  exact ofParts_eq_ok_iff.mpr ⟨h.definition, rfl⟩

theorem Rejected.result_compile (h : Rejected c d e) : (compile c d).result = .error e := by
  cases h with
  | noExpression hexpression =>
    rw [compile, hexpression]
    rfl
  | expansion hexpression hexpand =>
    rw [result_compile_of_expression c hexpression, Compiler.result_compile_of_error hexpand]
    rfl
  | regex hexpression hexpand hregex =>
    rw [result_compile_of_expression c hexpression, Compiler.result_compile hexpand, hregex]
    rfl
  | @fields expression _ field regex hexpression hexpand hregex hfield hmissing =>
    have hne : d.missingFields ⟨expression, regex⟩ ≠ [] := fun hnil =>
      hmissing (MetricDefinition.missingFields_eq_nil_iff.mp hnil field hfield)
    rw [result_compile_of_expression c hexpression, Compiler.result_compile hexpand, hregex]
    simp only [Except.bind]
    rw [result_ofParts, dif_neg hne, MetricDefinition.missingFields_eq_filter]

theorem accepted_of_stages {source : Text} {regex : Regex}
    (hexpression : d.expression = some expression) (hexpand : c.expand expression = .ok source)
    (hregex : c.engine.compile source = .ok regex)
    (hfields : ∀ field ∈ d.requiredFields, some field ∈ regex.names) : ∃ m, Accepted c d m := by
  obtain rfl := c.engine.source_of_compile source regex hregex
  exact ⟨⟨d, ⟨expression, regex⟩, MetricDefinition.missingFields_eq_nil_iff.mpr hfields⟩,
    rfl, hexpression, hexpand, hregex⟩

theorem accepted_or_rejected (c : Compiler) (d : MetricDefinition) :
    (∃ m, Accepted c d m) ∨ ∃ e, Rejected c d e := by
  cases hexpression : d.expression with
  | none => exact .inr ⟨_, .noExpression hexpression⟩
  | some expression =>
    cases hexpand : c.expand expression with
    | error e => exact .inr ⟨e, .expansion hexpression hexpand⟩
    | ok source =>
      cases hregex : c.engine.compile source with
      | error message => exact .inr ⟨_, .regex hexpression hexpand hregex⟩
      | ok regex =>
        by_cases hfields : ∀ field ∈ d.requiredFields, some field ∈ regex.names
        · exact .inl (accepted_of_stages hexpression hexpand hregex hfields)
        · push Not at hfields
          obtain ⟨field, hfield, hmissing⟩ := hfields
          exact .inr ⟨_, .fields hexpression hexpand hregex hfield hmissing⟩

-- what is accepted compiles and what is rejected does not, so there is nothing else for a result to be
theorem compile_eq_ok_iff : (compile c d).result = .ok m ↔ Accepted c d m := by
  refine ⟨fun h => ?_, Accepted.result_compile⟩
  rcases accepted_or_rejected c d with ⟨m', hm'⟩ | ⟨e, he⟩
  · obtain rfl : m' = m := Except.ok.inj (hm'.result_compile.symm.trans h)
    exact hm'
  · cases he.result_compile.symm.trans h

theorem compile_eq_error_iff : (compile c d).result = .error e ↔ Rejected c d e := by
  refine ⟨fun h => ?_, Rejected.result_compile⟩
  rcases accepted_or_rejected c d with ⟨m, hm⟩ | ⟨e', he'⟩
  · cases hm.result_compile.symm.trans h
  · obtain rfl : e' = e := Except.error.inj (he'.result_compile.symm.trans h)
    exact he'

/-- A definition becomes a metric exactly if it has an expression, the expression expands, the
expansion is a regex, and all required fields are names of its groups. The metric keeps the definition,
and its pattern has the expansion as its source. Otherwise the error is that of the first stage that
fails. -/
theorem compile_ok_iff_all_stages_pass (c : Compiler) (d : MetricDefinition) :
    ((∃ m, (compile c d).result = .ok m) ↔ ∃ expression source regex,
      d.expression = some expression ∧ c.expand expression = .ok source ∧
        c.engine.compile source = .ok regex ∧
          ∀ field ∈ d.requiredFields, some field ∈ regex.names) ∧
    (∀ m, (compile c d).result = .ok m → m.definition = d ∧
      d.expression = some m.pattern.expression ∧
        c.expand m.pattern.expression = .ok m.pattern.source ∧
          c.engine.compile m.pattern.source = .ok m.pattern.regex) ∧
    ∀ e, (compile c d).result = .error e ↔ Rejected c d e := by
  refine ⟨⟨?_, ?_⟩, ?_, fun e => compile_eq_error_iff⟩
  · rintro ⟨m, hm⟩
    obtain ⟨rfl, hexpression, hexpand, hregex⟩ := compile_eq_ok_iff.mp hm
    exact ⟨_, _, _, hexpression, hexpand, hregex,
      MetricDefinition.missingFields_eq_nil_iff.mp m.complete⟩
  · rintro ⟨expression, source, regex, hexpression, hexpand, hregex, hfields⟩
    obtain ⟨m, hm⟩ := accepted_of_stages hexpression hexpand hregex hfields
    exact ⟨m, hm.result_compile⟩
  · intro m hm
    obtain ⟨hdefinition, hexpression, hexpand, hregex⟩ := compile_eq_ok_iff.mp hm
    exact ⟨hdefinition, hexpression, hexpand, hregex⟩

end Metric

end Grok
