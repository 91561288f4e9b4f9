import Grok.Proofs.Metric.Acceptance

namespace Grok

namespace Metric

/-- A metric is made of a definition: from the expression of the definition, or from a pattern that has
been compiled. -/
inductive MadeOf (d : MetricDefinition) : Metric → Prop
  | compiled {c : Compiler} {m : Metric} (hm : (compile c d).result = .ok m) : MadeOf d m
  | joined {c : Compiler} {expression : Text} {p : Pattern} {m : Metric}
      (hp : (c.compile expression).result = .ok p) (hm : (ofParts d p).result = .ok m) : MadeOf d m

inductive ValueAsked (d : MetricDefinition) (r : Regex) (captured : List (Option Text)) :
    Option Number → Prop
  | none (hvalue : d.value = none) : ValueAsked d r captured none
  | some {field text : Text} {n : Number} (hvalue : d.value = some field)
      (htext : r.GroupText captured field text) (hnumber : Number.parse? text.trim = some n) :
      ValueAsked d r captured (some n)

structure LabelAsked (r : Regex) (captured : List (Option Text)) (b : LabelBinding)
    (label : Text × Text) : Prop where
  name : label.1 = b.label
  text : r.GroupText captured b.field label.2

inductive Asked (d : MetricDefinition) (r : Regex) (line : Text) : Except Error (Option Sample) → Prop
  | failure {message : Text} (hline : r.captures line = .error message) :
      Asked d r line (.error (.search message))
  | noMatch (hline : r.captures line = .ok none) : Asked d r line (.ok none)
  | noNumber {captured : List (Option Text)} {field text : Text}
      (hline : r.captures line = .ok (some captured)) (hvalue : d.value = some field)
      (htext : r.GroupText captured field text) (hnumber : Number.parse? text.trim = none) :
      Asked d r line (.error (.invalidValue field text))
  | sample {captured : List (Option Text)} {s : Sample}
      (hline : r.captures line = .ok (some captured)) (hvalue : ValueAsked d r captured s.value)
      (hlabels : List.Forall₂ (LabelAsked r captured) d.labels s.labels) : Asked d r line (.ok (some s))

variable {d : MetricDefinition} {m : Metric} {r : Regex} {captured : List (Option Text)}
  {field text line : Text}

theorem MadeOf.definition_eq (h : MadeOf d m) : m.definition = d := by
  cases h with
  | compiled hm => exact (compile_eq_ok_iff.mp hm).definition
  | joined _ hm => exact (ofParts_eq_ok_iff.mp hm).1

theorem MadeOf.exists_group (h : MadeOf d m) (hfield : field ∈ d.references) :
    ∃ n : Nat, m.pattern.regex.names[n]? = some (some field) := by
  rw [← h.definition_eq, ← MetricDefinition.mem_requiredFields_iff] at hfield
  exact List.mem_iff_getElem?.mp (MetricDefinition.missingFields_eq_nil_iff.mp m.complete _ hfield)

theorem value_mem_references (h : d.value = some field) : field ∈ d.references := by
  simp [MetricDefinition.references, h]

theorem label_mem_references {b : LabelBinding} (h : b ∈ d.labels) : b.field ∈ d.references :=
  List.mem_append_right _ (List.mem_map_of_mem h)

section Match

variable (hgroups : ∀ field ∈ d.references, ∀ text,
  r.GroupText captured field text ↔ Metric.captured (r.found captured) field = text)
include hgroups

theorem valueOf_eq_ok_iff {value : Option Number} :
    valueOf d (r.found captured) = .ok value ↔ ValueAsked d r captured value := by
  unfold valueOf
  cases hvalue : d.value with
  | none =>
    constructor
    · intro h
      cases h
      exact .none hvalue
    · intro h
      cases h with
      | none => rfl
      | some hsome => simp [hvalue] at hsome
  | some field =>
    have htext := hgroups field (value_mem_references hvalue)
    dsimp only
    constructor
    · intro h
      split at h
      next n hnumber =>
        cases h
        exact .some hvalue ((htext _).mpr rfl) hnumber
      next => cases h
    · intro h
      cases h with
      | none hnone => simp [hvalue] at hnone
      | some hsome hgroup hnumber =>
        obtain rfl := Option.some.inj (hvalue.symm.trans hsome)
        rw [(htext _).mp hgroup, hnumber]

theorem valueOf_eq_error_iff {e : Error} :
    valueOf d (r.found captured) = .error e ↔ ∃ field text, d.value = some field ∧
      r.GroupText captured field text ∧ Number.parse? text.trim = none ∧
        e = .invalidValue field text := by
  unfold valueOf
  cases hvalue : d.value with
  | none => simp
  | some field =>
    have htext := hgroups field (value_mem_references hvalue)
    dsimp only
    constructor
    · intro h
      split at h
      next => cases h
      next hnumber =>
        cases h
        exact ⟨field, _, rfl, (htext _).mpr rfl, hnumber, rfl⟩
    · rintro ⟨own, text, hown, hgroup, hnumber, rfl⟩
      cases hown
      rw [(htext text).mp hgroup, hnumber]

theorem labelAsked_iff {b : LabelBinding} (hb : b ∈ d.labels) {label : Text × Text} :
    LabelAsked r captured b label ↔
      (b.label, Metric.captured (r.found captured) b.field) = label := by
  obtain ⟨name, text⟩ := label
  have htext := hgroups b.field (label_mem_references hb) text
  rw [Prod.mk.injEq, ← htext]
  exact ⟨fun h => ⟨h.name.symm, h.text⟩, fun h => ⟨h.1.symm, h.2⟩⟩

theorem forall₂_labelAsked_iff {labels : List (Text × Text)} :
    List.Forall₂ (LabelAsked r captured) d.labels labels ↔
      labels = d.labels.map fun b => (b.label, Metric.captured (r.found captured) b.field) := by
  have hlabels : ∀ b ∈ d.labels, ∀ label, LabelAsked r captured b label ↔
      (b.label, Metric.captured (r.found captured) b.field) = label :=
    fun b hb label => labelAsked_iff hgroups hb
  generalize d.labels = bindings at hlabels
  induction bindings generalizing labels with
  | nil => simp
  | cons b rest ih =>
    rw [List.forall_mem_cons] at hlabels
    rw [List.map_cons, List.forall₂_cons_left_iff]
    constructor
    · rintro ⟨label, rest', hlabel, hrest, rfl⟩
      rw [(hlabels.1 label).mp hlabel, (ih hlabels.2).mp hrest]
    · rintro rfl
      exact ⟨_, _, (hlabels.1 _).mpr rfl, (ih hlabels.2).mpr rfl, rfl⟩

end Match

theorem MadeOf.groupText_iff (h : MadeOf d m)
    (hline : m.pattern.regex.captures line = .ok (some captured)) (hfield : field ∈ d.references) :
    m.pattern.regex.GroupText captured field text ↔
      Metric.captured (m.pattern.regex.found captured) field = text := by
  obtain ⟨n, hn⟩ := h.exists_group hfield
  exact Regex.groupText_iff (m.pattern.regex.captures_length _ _ hline) hn

theorem sample_eq (m : Metric) (line : Text) :
    m.sample line = match m.pattern.regex.captures line with
      | .error message => .error (.search message)
      | .ok none => .ok none
      | .ok (some captured) =>
        (valueOf m.definition (m.pattern.regex.found captured)).map fun value =>
          some ⟨value, m.definition.labels.map fun b =>
            (b.label, Metric.captured (m.pattern.regex.found captured) b.field)⟩ := by
  unfold sample Pattern.captures
  rw [Regex.fields_eq_map]
  cases m.pattern.regex.captures line with
  | error message => rfl
  | ok captured? =>
    cases captured? with
    | none => rfl
    | some captured =>
      cases hvalue : valueOf m.definition (m.pattern.regex.found captured) <;>
        simp [Except.map, Except.mapError, hvalue, bind, Except.bind, pure, Except.pure]

theorem MadeOf.sample_eq_iff (h : MadeOf d m) {outcome : Except Error (Option Sample)} :
    m.sample line = outcome ↔ Asked d m.pattern.regex line outcome := by
  rw [sample_eq, h.definition_eq]
  cases hline : m.pattern.regex.captures line with
  | error message =>
    constructor
    · rintro rfl
      exact .failure hline
    · intro hasked
      cases hasked <;> simp_all
  | ok captured? =>
    cases captured? with
    | none =>
      constructor
      · rintro rfl
        exact .noMatch hline
      · intro hasked
        cases hasked <;> simp_all
    | some captured =>
      have hgroups : ∀ field ∈ d.references, ∀ text,
          m.pattern.regex.GroupText captured field text ↔
            Metric.captured (m.pattern.regex.found captured) field = text :=
        fun field hfield text => h.groupText_iff hline hfield
      dsimp only
      constructor
      · rintro rfl
        cases hvalue : valueOf d (m.pattern.regex.found captured) with
        | error e =>
          obtain ⟨field, text, hfield, htext, hnumber, rfl⟩ := (valueOf_eq_error_iff hgroups).mp hvalue
          exact .noNumber hline hfield htext hnumber
        | ok value =>
          exact .sample hline ((valueOf_eq_ok_iff hgroups).mp hvalue)
            ((forall₂_labelAsked_iff hgroups).mpr rfl)
      · intro hasked
        cases hasked with
        | failure hline' => cases hline.symm.trans hline'
        | noMatch hline' => cases hline.symm.trans hline'
        | noNumber hline' hfield htext hnumber =>
          cases hline.symm.trans hline'
          rw [(valueOf_eq_error_iff hgroups).mpr ⟨_, _, hfield, htext, hnumber, rfl⟩]
          rfl
        | sample hline' hvalue hlabels =>
          cases hline.symm.trans hline'
          rw [(valueOf_eq_ok_iff hgroups).mpr hvalue, ← (forall₂_labelAsked_iff hgroups).mp hlabels]
          rfl

theorem lookup_eq_none_of_labels {bindings : List LabelBinding} {labels : List (Text × Text)}
    {name : Text} (h : List.Forall₂ (LabelAsked r captured) bindings labels)
    (hnone : ∀ b ∈ bindings, b.label ≠ name) : labels.lookup name = none := by
  induction h with
  | nil => rfl
  | @cons b label _ _ hlabel _ ih =>
    obtain ⟨own, text⟩ := label
    obtain ⟨rfl, -⟩ := hlabel
    rw [List.forall_mem_cons] at hnone
    rw [List.lookup_cons, beq_false_of_ne (Ne.symm hnone.1)]
    exact ih hnone.2

theorem exists_lookup_of_labels {before after : List LabelBinding} {b : LabelBinding}
    {labels : List (Text × Text)}
    (h : List.Forall₂ (LabelAsked r captured) (before ++ b :: after) labels)
    (hbefore : ∀ other ∈ before, other.label ≠ b.label) :
    ∃ text, labels.lookup b.label = some text ∧ r.GroupText captured b.field text := by
  induction before generalizing labels with
  | nil =>
    obtain ⟨⟨name, text⟩, rest, ⟨rfl, htext⟩, -, rfl⟩ := List.forall₂_cons_left_iff.mp h
    exact ⟨text, List.lookup_cons_self, htext⟩
  | cons other before ih =>
    rw [List.forall_mem_cons] at hbefore
    obtain ⟨⟨name, own⟩, rest, ⟨rfl, -⟩, hrest, rfl⟩ := List.forall₂_cons_left_iff.mp h
    obtain ⟨text, hlookup, htext⟩ := ih hrest hbefore.2
    refine ⟨text, ?_, htext⟩
    rw [List.lookup_cons, beq_false_of_ne (Ne.symm hbefore.1)]
    exact hlookup

/-- A metric that has been made of a definition gives what the definition asks for, of each line: it
has one group for each field, and a label has the text of the group, which is empty only if the group
captured nothing. The first label of a name is the one that is found by it. -/
theorem sample_is_what_definition_asks_for (h : MadeOf d m) :
    m.definition = d ∧
    (∀ field ∈ d.references, ∃! n : Nat, m.pattern.regex.names[n]? = some (some field)) ∧
    ∀ line, (∀ outcome, m.sample line = outcome ↔ Asked d m.pattern.regex line outcome) ∧
      ∀ captured s, m.pattern.regex.captures line = .ok (some captured) →
        m.sample line = .ok (some s) →
          (∀ name, (∀ b ∈ d.labels, b.label ≠ name) → s.label? name = none) ∧
          ∀ before b after, d.labels = before ++ b :: after →
            (∀ other ∈ before, other.label ≠ b.label) →
              ∃ text, s.label? b.label = some text ∧
                m.pattern.regex.GroupText captured b.field text := by
  refine ⟨h.definition_eq, ?_, fun line => ⟨fun outcome => h.sample_eq_iff, ?_⟩⟩
  · intro field hfield
    obtain ⟨n, hn⟩ := h.exists_group hfield
    exact ⟨n, hn, fun i hi => m.pattern.regex.names_differ field i n hi hn⟩
  · intro captured s hline hs
    cases h.sample_eq_iff.mp hs with
    | sample hline' _ hlabels =>
      cases hline.symm.trans hline'
      refine ⟨fun name hnone => lookup_eq_none_of_labels hlabels hnone, ?_⟩
      intro before b after hsplit hbefore
      rw [hsplit] at hlabels
      exact exists_lookup_of_labels hlabels hbefore

theorem group_without_text_gives_empty_label :
    let c : Compiler :=
      { dictionary := .ofList [("DIGIT", "[.-9]")], engine := Regex.Dialect.linear.terse }
    let d : MetricDefinition := {
      name := "m", expression := some "%{DIGIT:_}(?P<__>)x", value := some "_"
      labels := [⟨"__", "b"⟩, ⟨"_", "a"⟩, ⟨"_", "b"⟩] }
    ∃ m, (compile c d).result = .ok m ∧
      m.sample "7x" = .ok (some ⟨some (.finite false 7881299347898368 (-50)),
        [("b", []), ("a", "7"), ("b", "7")]⟩) ∧
      m.sample ".x" = .error (.invalidValue "_" ".") ∧ m.sample "y" = .ok none := by
  intro c d
  have hexpand : c.expand "%{DIGIT:_}(?P<__>)x" = .ok "(?P<_>[.-9])(?P<__>)x" := by cbv
  let names : List (Option Text) := [none, some "_", some "__"]
  let whole : List (Option Text) := [some "7x", some "7", some []]
  let point : List (Option Text) := [some ".x", some ".", some []]
  have hcompile : (Regex.compile? .linear "(?P<_>[.-9])(?P<__>)x").map (·.names) = some names := by
    decide +kernel
  have hwhole : (Regex.compile? .linear "(?P<_>[.-9])(?P<__>)x").map (·.captures "7x") =
      some (.ok (some whole)) := by decide +kernel
  have hpoint : (Regex.compile? .linear "(?P<_>[.-9])(?P<__>)x").map (·.captures ".x") =
      some (.ok (some point)) := by decide +kernel
  have hnone : (Regex.compile? .linear "(?P<_>[.-9])(?P<__>)x").map (·.captures "y") =
      some (.ok none) := by decide +kernel
  obtain ⟨r, hr, hnames⟩ := Option.map_eq_some_iff.mp hcompile
  rw [hr] at hwhole hpoint hnone
  have hfields : ∀ field ∈ d.requiredFields, some field ∈ r.names := by
    rw [hnames]
    decide
  let m : Metric := ⟨d, ⟨"%{DIGIT:_}(?P<__>)x", r⟩,
    MetricDefinition.missingFields_eq_nil_iff.mpr hfields⟩
  have hm : (compile c d).result = .ok m := by
    rw [result_compile_of_pattern rfl (Compiler.result_compile_of_dialect rfl hexpand hr)]
    exact ofParts_eq_ok_iff.mpr ⟨rfl, rfl⟩
  obtain ⟨-, -, hsample⟩ := sample_is_what_definition_asks_for (.compiled hm)
  have hfirst : r.names[1]? = some (some ("_" : Text)) := congrArg (·[1]?) hnames
  have hsecond : r.names[2]? = some (some ("__" : Text)) := congrArg (·[2]?) hnames
  refine ⟨m, hm, ((hsample _).1 _).mpr ?_, ((hsample _).1 _).mpr ?_,
    ((hsample _).1 _).mpr (.noMatch (Option.some.inj hnone))⟩
  · refine .sample (Option.some.inj hwhole) (.some rfl (.took hfirst rfl) (by decide +kernel)) ?_
    exact .cons ⟨rfl, .took hsecond rfl⟩ (.cons ⟨rfl, .took hfirst rfl⟩
      (.cons ⟨rfl, .took hfirst rfl⟩ .nil))
  · exact .noNumber (Option.some.inj hpoint) rfl (.took hfirst rfl) (by decide +kernel)

end Metric

end Grok
