import Grok.Proofs.Metric.Acceptance

namespace Grok.MetricDefinition

variable {d d' : MetricDefinition} {p p' : Pattern} {field : Text} {missing : List Text} {e : Error}

theorem pairwise_firstOfEqual (ts : List Text) :
    (firstOfEqual ts).Pairwise fun a b => ts.idxOf a < ts.idxOf b := by
  induction ts with
  | nil => exact .nil
  | cons head rest ih =>
    have hidx (t : Text) (hne : t ≠ head) : (head :: rest).idxOf t = rest.idxOf t + 1 :=
      List.idxOf_cons_ne rest (Ne.symm hne)
    rw [firstOfEqual, List.pairwise_cons]
    constructor
    · intro t ht
      have hne : t ≠ head := by simpa using (List.mem_filter.mp ht).2
      rw [List.idxOf_cons_self, hidx t hne]
      omega
    · apply List.Pairwise.imp_of_mem _ (ih.filter _)
      intro a b ha hb hlt
      have hane : a ≠ head := by simpa using (List.mem_filter.mp ha).2
      have hbne : b ≠ head := by simpa using (List.mem_filter.mp hb).2
      rw [hidx a hane, hidx b hbne]
      omega

theorem nodup_requiredFields (d : MetricDefinition) : d.requiredFields.Nodup := by
  apply (pairwise_firstOfEqual d.references).imp
  rintro a b hlt rfl
  exact lt_irrefl _ hlt

theorem mem_references_iff :
    field ∈ d.references ↔ d.value = some field ∨ ∃ b ∈ d.labels, b.field = field := by
  rw [references, List.mem_append, Option.mem_toList, List.mem_map]

theorem result_verify (d : MetricDefinition) (p : Pattern) : (d.verify p).result =
    if d.missingFields p = [] then .ok () else .error (.missingFields (d.missingFields p)) := by
  rw [verify]
  split_ifs <;> rfl

theorem verify_eq_ok_iff : (d.verify p).result = .ok () ↔ d.missingFields p = [] := by
  rw [result_verify]
  split_ifs with h
  · exact iff_of_true rfl h
  · exact iff_of_false (by simp) h

theorem verify_eq_error_iff : (d.verify p).result = .error e ↔
    d.missingFields p ≠ [] ∧ e = .missingFields (d.missingFields p) := by
  rw [result_verify]
  split_ifs with h
  · simp [h]
  · simp [h, eq_comm]

theorem missingFields_sublist (d : MetricDefinition) (p : Pattern) :
    (d.missingFields p).Sublist d.requiredFields := List.filter_sublist

theorem mem_missingFields_iff :
    field ∈ d.missingFields p ↔ field ∈ d.requiredFields ∧ some field ∉ p.regex.names := by
  rw [missingFields_eq_filter, List.mem_filter, decide_eq_true_eq]

theorem missingFields_congr (hreferences : d'.references = d.references)
    (hgroups : ∀ field ∈ d.references, some field ∈ p'.regex.names ↔ some field ∈ p.regex.names) :
    d'.missingFields p' = d.missingFields p := by
  rw [missingFields_eq_filter, missingFields_eq_filter, requiredFields, hreferences]
  apply List.filter_congr
  intro field hfield
  apply decide_eq_decide.mpr
  exact not_congr (hgroups field (mem_firstOfEqual.mp hfield))

theorem missingFields_sublist_of_groups
    (h : ∀ name, some name ∈ p.regex.names → some name ∈ p'.regex.names) (d : MetricDefinition) :
    (d.missingFields p').Sublist (d.missingFields p) := by
  rw [missingFields_eq_filter, missingFields_eq_filter]
  apply List.monotone_filter_right
  intro field hfield
  rw [decide_eq_true_eq] at hfield ⊢
  exact mt (h field) hfield

/-- The required fields are the fields of the value and of the labels, each once, in the order of the
first references to them. The check succeeds exactly if all of them are names of groups, and tells
those that are not, in the same order. It looks at nothing but the references and which of them are
names of groups, so that more groups leave fewer fields to be told. -/
theorem fields_verified_in_order_of_reference (d : MetricDefinition) (p : Pattern) :
    (d.requiredFields.Nodup ∧
      (∀ field, field ∈ d.requiredFields ↔
        d.value = some field ∨ ∃ b ∈ d.labels, b.field = field) ∧
      d.requiredFields.Pairwise fun a b =>
        (d.value.toList ++ d.labels.map (·.field)).idxOf a <
          (d.value.toList ++ d.labels.map (·.field)).idxOf b) ∧
    ((d.verify p).result = .ok () ↔ ∀ field ∈ d.requiredFields, some field ∈ p.regex.names) ∧
    (∀ e, (d.verify p).result = .error e → ∃ missing, e = .missingFields missing ∧
      missing.Nodup ∧ missing.Sublist d.requiredFields ∧
        ∀ field, field ∈ missing ↔ field ∈ d.requiredFields ∧ some field ∉ p.regex.names) ∧
    (∀ (d' : MetricDefinition) (p' : Pattern), d'.value = d.value →
      d'.labels.map (·.field) = d.labels.map (·.field) →
      (∀ field ∈ d.requiredFields, some field ∈ p'.regex.names ↔ some field ∈ p.regex.names) →
        (d'.verify p').result = (d.verify p).result) ∧
    ∀ p' : Pattern, (∀ name, some name ∈ p.regex.names → some name ∈ p'.regex.names) →
      ∀ missing', (d.verify p').result = .error (.missingFields missing') → ∃ missing,
        (d.verify p).result = .error (.missingFields missing) ∧ missing'.Sublist missing := by
  refine ⟨⟨nodup_requiredFields d, fun field => ?_, pairwise_firstOfEqual d.references⟩, ?_,
    fun e he => ?_, fun d' p' hvalue hlabels hgroups => ?_, fun p' hgroups missing' hmissing' => ?_⟩
  · rw [mem_requiredFields_iff, mem_references_iff]
  · rw [verify_eq_ok_iff, missingFields_eq_nil_iff]
  · obtain ⟨-, rfl⟩ := verify_eq_error_iff.mp he
    have hsub := missingFields_sublist d p
    exact ⟨_, rfl, (nodup_requiredFields d).sublist hsub, hsub, fun field => mem_missingFields_iff⟩
  · have hreferences : d'.references = d.references := by
      rw [references, references, hvalue, hlabels]
    have hsame : d'.missingFields p' = d.missingFields p :=
      missingFields_congr hreferences fun field hfield =>
        hgroups field (mem_requiredFields_iff.mpr hfield)
    rw [result_verify, result_verify, hsame]
  · obtain ⟨hne, heq⟩ := verify_eq_error_iff.mp hmissing'
    cases heq
    have hsub := missingFields_sublist_of_groups hgroups d
    have hmissing : d.missingFields p ≠ [] := by
      intro hnil
      rw [hnil, List.sublist_nil] at hsub
      exact hne hsub
    exact ⟨_, verify_eq_error_iff.mpr ⟨hmissing, rfl⟩, hsub⟩

theorem value_and_label_without_group :
    let labels : List LabelBinding := [⟨"_", "a"⟩, ⟨"__", "_"⟩, ⟨"___", "b"⟩, ⟨"_", "c"⟩]
    let d : MetricDefinition := { name := "m", value := some "__", labels := labels }
    let d' : MetricDefinition := { d with labels := labels.map fun b => ⟨b.field, "___"⟩ }
    ∃ few moved more : Pattern,
      (∀ name, some name ∈ few.regex.names → some name ∈ more.regex.names) ∧
      d.requiredFields = ["__", "_", "___"] ∧
      (d.verify few).result = .error (.missingFields ["__", "___"]) ∧
      (d'.verify moved).result = (d.verify few).result ∧
      (d.verify more).result = .error (.missingFields ["___"]) ∧
      ∃ missing, (d.verify few).result = .error (.missingFields missing) ∧
        [("___" : Text)].Sublist missing := by
  intro labels d d'
  let fewNames : List (Option Text) := [none, some "_"]
  let movedNames : List (Option Text) := [none, none, some "____", some "_"]
  let moreNames : List (Option Text) := [none, some "__", some "_"]
  have hfew : (Regex.compile? .linear "(?P<_>a)").map (·.names) = some fewNames := by
    decide +kernel
  have hmoved : (Regex.compile? .linear "(b)(?P<____>b)(?P<_>a)").map (·.names) =
      some movedNames := by decide +kernel
  have hmore : (Regex.compile? .linear "(?P<__>b)(?P<_>a)").map (·.names) = some moreNames := by
    decide +kernel
  obtain ⟨few, -, hfew⟩ := Option.map_eq_some_iff.mp hfew
  obtain ⟨moved, -, hmoved⟩ := Option.map_eq_some_iff.mp hmoved
  obtain ⟨more, -, hmore⟩ := Option.map_eq_some_iff.mp hmore
  let p : Pattern := ⟨"(?P<_>a)", few⟩
  let q : Pattern := ⟨"(b)(?P<____>b)(?P<_>a)", moved⟩
  let r : Pattern := ⟨"(?P<__>b)(?P<_>a)", more⟩
  have hgroups : ∀ name, some name ∈ p.regex.names → some name ∈ r.regex.names := by
    intro name
    rw [hfew, hmore]
    simp +contextual [fewNames, moreNames]
  have hsame : ∀ field ∈ d.requiredFields,
      some field ∈ q.regex.names ↔ some field ∈ p.regex.names := by
    rw [hfew, hmoved]
    decide
  have hmissing : d.missingFields p = ["__", "___"] := by
    rw [missingFields_eq_filter, hfew]
    decide
  have hmissing' : d.missingFields r = ["___"] := by
    rw [missingFields_eq_filter, hmore]
    decide
  have hverify : (d.verify r).result = .error (.missingFields ["___"]) := by
    rw [result_verify, hmissing']
    rfl
  obtain ⟨-, -, -, hindependent, hshrinks⟩ := fields_verified_in_order_of_reference d p
  refine ⟨p, q, r, hgroups, rfl, ?_, hindependent d' q rfl rfl hsame, hverify,
    hshrinks r hgroups _ hverify⟩
  rw [result_verify, hmissing]
  rfl

end Grok.MetricDefinition
