import Grok.Proofs.Metric.Sample
import Grok.Proofs.Text.Quoted

namespace Grok

namespace Sample

def labelText (label : Text × Text) : Text := label.1 ++ "=" ++ label.2.quote

theorem toText_eq (s : Sample) : s.toText = '{' :: (Text.join "," (s.labels.map labelText) ++
    '}' :: (s.value.map fun n => ' ' :: n.toText).getD []) := by
  rw [toText]
  cases s.value <;> rfl

theorem separator_cons_join {parts : List Text} (h : parts ≠ []) :
    ',' :: Text.join "," parts = parts.flatMap (',' :: ·) := by
  induction parts with
  | nil => exact absurd rfl h
  | cons part parts ih =>
    cases parts with
    | nil => simp [Text.join]
    | cons next parts =>
      have hrest := ih (List.cons_ne_nil _ _)
      rw [Text.join] at hrest ⊢
      rw [List.intercalate_cons_cons, List.flatMap_cons, ← hrest]
      simp

theorem labelText_append_inj {label label' : Text × Text} {rest rest' : Text}
    (hname : label.1 = label'.1) (h : labelText label ++ rest = labelText label' ++ rest') :
    label = label' ∧ rest = rest' := by
  rw [labelText, labelText, hname, List.append_assoc, List.append_assoc _ _ rest'] at h
  obtain ⟨htext, hrest⟩ := Text.quote_append_inj (List.append_cancel_left h)
  exact ⟨Prod.ext hname htext, hrest⟩

theorem further_labels_append_inj {labels labels' : List (Text × Text)} {rest rest' : Text}
    (hnames : labels.map (·.1) = labels'.map (·.1))
    (h : (labels.map labelText).flatMap (',' :: ·) ++ rest =
      (labels'.map labelText).flatMap (',' :: ·) ++ rest') : labels = labels' ∧ rest = rest' := by
  induction labels generalizing labels' with
  | nil =>
    obtain rfl := List.map_eq_nil_iff.mp hnames.symm
    exact ⟨rfl, h⟩
  | cons label labels ih =>
    cases labels' with
    | nil => cases hnames
    | cons label' labels' =>
      rw [List.map_cons, List.map_cons, List.cons.injEq] at hnames
      simp only [List.map_cons, List.flatMap_cons, List.cons_append, List.append_assoc,
        List.cons.injEq, true_and] at h
      obtain ⟨rfl, hmore⟩ := labelText_append_inj hnames.1 h
      obtain ⟨rfl, hrest⟩ := ih hnames.2 hmore
      exact ⟨rfl, hrest⟩

theorem labels_append_inj {labels labels' : List (Text × Text)} {rest rest' : Text}
    (hnames : labels.map (·.1) = labels'.map (·.1))
    (h : Text.join "," (labels.map labelText) ++ rest =
      Text.join "," (labels'.map labelText) ++ rest') : labels = labels' ∧ rest = rest' := by
  by_cases hnil : labels = []
  · subst hnil
    obtain rfl := List.map_eq_nil_iff.mp hnames.symm
    exact ⟨rfl, h⟩
  · have hnil' : labels' ≠ [] := by
      rintro rfl
      exact hnil (List.map_eq_nil_iff.mp hnames)
    apply further_labels_append_inj hnames
    rw [← separator_cons_join (by simpa using hnil), ← separator_cons_join (by simpa using hnil'),
      List.cons_append, h, List.cons_append]

theorem toText_inj {s s' : Sample} (hnames : s.labels.map (·.1) = s'.labels.map (·.1))
    (h : s.toText = s'.toText) :
    s.labels = s'.labels ∧ s.value.map Number.toText = s'.value.map Number.toText := by
  rw [toText_eq, toText_eq, List.cons.injEq] at h
  obtain ⟨hlabels, hvalue⟩ := labels_append_inj hnames h.2
  refine ⟨hlabels, ?_⟩
  rw [List.cons.injEq] at hvalue
  cases hs : s.value <;> cases hs' : s'.value <;> simp_all

end Sample

namespace Metric

variable {m : Metric} {line line' : Text} {s s' : Sample}

theorem label_names_of_sample (h : m.sample line = .ok (some s)) :
    s.labels.map (·.1) = m.definition.labels.map (·.label) := by
  rw [sample_eq] at h
  split at h
  · cases h
  · cases h
  next captured hline =>
    cases hvalue : valueOf m.definition (m.pattern.regex.found captured) with
    | error e =>
      rw [hvalue] at h
      cases h
    | ok value =>
      rw [hvalue] at h
      cases h
      rw [List.map_map]
      rfl

/-- Two samples of a metric that are shown alike have the same labels, and their values are shown
alike. -/
theorem printed_sample_tells_its_labels (hs : m.sample line = .ok (some s))
    (hs' : m.sample line' = .ok (some s')) (h : s.toText = s'.toText) :
    s.labels = s'.labels ∧ s.value.map Number.toText = s'.value.map Number.toText := by
  apply Sample.toText_inj _ h
  rw [label_names_of_sample hs, label_names_of_sample hs']

theorem separators_in_labels_are_told_apart :
    let c : Compiler :=
      { dictionary := .ofList [("SIGN", "[!-~]"), ("DIGITS", "[+-9][.-9]")]
        engine := Regex.Dialect.linear.terse }
    let d : MetricDefinition := {
      name := "m", expression := some "%{SIGN:_}%{SIGN:__}%{DIGITS:___}", value := some "___"
      labels := [⟨"_", "a"⟩, ⟨"__", "b"⟩] }
    ∃ m s s' other, (compile c d).result = .ok m ∧ m.sample "\",+7" = .ok (some s) ∧
      m.sample "\",7." = .ok (some s') ∧ m.sample ",\"+7" = .ok (some other) ∧
      s.toText = s'.toText ∧ s.labels = s'.labels ∧
      s.value.map Number.toText = s'.value.map Number.toText ∧ s.toText ≠ other.toText := by
  intro c d
  let source : Text := "(?P<_>[!-~])(?P<__>[!-~])(?P<___>[+-9][.-9])"
  have hexpand : c.expand "%{SIGN:_}%{SIGN:__}%{DIGITS:___}" = .ok source := by cbv
  let names : List (Option Text) := [none, some "_", some "__", some "___"]
  let fields (a b v : Text) : Except Text (Option (List (Text × Text))) :=
    .ok (some [("_", a), ("__", b), ("___", v)])
  have hnames : (Regex.compile? .linear source).map (·.names) = some names := by decide +kernel
  have hsigned : (Regex.compile? .linear source).map (·.fields "\",+7") =
      some (fields "\"" "," "+7") := by decide +kernel
  have hpoint : (Regex.compile? .linear source).map (·.fields "\",7.") =
      some (fields "\"" "," "7.") := by decide +kernel
  have hother : (Regex.compile? .linear source).map (·.fields ",\"+7") =
      some (fields "," "\"" "+7") := by decide +kernel
  obtain ⟨r, hr, hnames⟩ := Option.map_eq_some_iff.mp hnames
  rw [hr, Option.map_some, Option.some.injEq] at hsigned hpoint hother
  have hrequired : ∀ field ∈ d.requiredFields, some field ∈ r.names := by
    rw [hnames]
    decide
  let m : Metric := ⟨d, ⟨"%{SIGN:_}%{SIGN:__}%{DIGITS:___}", r⟩,
    MetricDefinition.missingFields_eq_nil_iff.mpr hrequired⟩
  have hm : (compile c d).result = .ok m := by
    rw [result_compile_of_pattern rfl (Compiler.result_compile_of_dialect rfl hexpand hr)]
    exact ofParts_eq_ok_iff.mpr ⟨rfl, rfl⟩
  let seven : Number := .finite false 7881299347898368 (-50)
  have hsample (line a b v : Text) (hline : r.fields line = fields a b v)
      (hnumber : Number.parse? v.trim = some seven) :
      m.sample line = .ok (some ⟨some seven, [("a", a), ("b", b)]⟩) := by
    have hcaptured : m.pattern.captures line = .ok (some [("_", a), ("__", b), ("___", v)]) := by
      rw [Pattern.captures, hline]
      rfl
    have hvalue : valueOf d [("_", a), ("__", b), ("___", v)] = .ok (some seven) := by
      have htext : captured [("_", a), ("__", b), ("___", v)] "___" = v := rfl
      simp only [valueOf, d, htext, hnumber]
    simp only [sample, hcaptured, bind, Except.bind, m, hvalue]
    rfl
  have hseven : Number.parse? (Text.trim "+7") = some seven := by decide +kernel
  have hseven' : Number.parse? (Text.trim "7.") = some seven := by decide +kernel
  have hs := hsample _ _ _ _ hsigned hseven
  have hs' := hsample _ _ _ _ hpoint hseven'
  have hsother := hsample _ _ _ _ hother hseven
  obtain ⟨hlabels, hvalue⟩ := printed_sample_tells_its_labels hs hs' rfl
  refine ⟨m, _, _, _, hm, hs, hs', hsother, rfl, hlabels, hvalue, fun h => ?_⟩
  exact absurd (printed_sample_tells_its_labels hs hsother h).1 (by decide)

end Metric

end Grok
