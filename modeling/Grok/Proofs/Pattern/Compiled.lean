import Grok.Compiler
import Grok.Proofs.Report
import Grok.Proofs.Text.Association
import Mathlib

namespace Grok

namespace Regex

variable {r : Regex} {name text : Text} {captured : List (Option Text)} {n : Nat}

theorem mem_groups_iff : (n, name) ∈ r.groups ↔ r.names[n]? = some (some name) := by
  rw [groups, List.mem_filterMap]
  constructor
  · rintro ⟨⟨opening, i⟩, hopening, hname⟩
    obtain ⟨group, rfl, heq⟩ := Option.map_eq_some_iff.mp hname
    cases heq
    exact List.mem_zipIdx_iff_getElem?.mp hopening
  · intro h
    exact ⟨(some name, n), List.mem_zipIdx_iff_getElem?.mpr h, rfl⟩

/-- The text of the group with a name, in a match: what the group has captured, and nothing if it took
no part. -/
inductive GroupText (r : Regex) (captured : List (Option Text)) (name : Text) : Text → Prop
  | took {n : Nat} {text : Text} (hname : r.names[n]? = some (some name))
      (htext : captured[n]? = some (some text)) : GroupText r captured name text
  | noPart {n : Nat} (hname : r.names[n]? = some (some name))
      (hnone : captured[n]? = some none) : GroupText r captured name []

def found (r : Regex) (captured : List (Option Text)) : List (Text × Text) :=
  r.groups.filterMap fun (index, name) => ((captured[index]?).join).map (name, ·)

theorem mem_found_iff : (name, text) ∈ r.found captured ↔
    ∃ n : Nat, r.names[n]? = some (some name) ∧ captured[n]? = some (some text) := by
  rw [found, List.mem_filterMap]
  constructor
  · rintro ⟨⟨n, own⟩, hmem, heq⟩
    obtain ⟨own, htext, heq⟩ := Option.map_eq_some_iff.mp heq
    cases heq
    exact ⟨n, mem_groups_iff.mp hmem, Option.join_eq_some_iff.mp htext⟩
  · rintro ⟨n, hname, htext⟩
    refine ⟨(n, name), mem_groups_iff.mpr hname, ?_⟩
    simp [htext]

theorem lookup_found (hname : r.names[n]? = some (some name)) :
    (r.found captured).lookup name = (captured[n]?).join := by
  ext text
  rw [lookup_eq_some_iff_of_unique, mem_found_iff, Option.join_eq_some_iff]
  · constructor
    · rintro ⟨i, hi, htext⟩
      exact r.names_differ name i n hi hname ▸ htext
    · exact fun htext => ⟨n, hname, htext⟩
  · intro a b ha hb
    obtain ⟨i, hi, ha⟩ := mem_found_iff.mp ha
    obtain ⟨j, hj, hb⟩ := mem_found_iff.mp hb
    obtain rfl := r.names_differ name i j hi hj
    simpa using ha.symm.trans hb

theorem fields_eq_map (r : Regex) (line : Text) :
    r.fields line = (r.captures line).map fun captured? => captured?.map r.found := rfl

theorem groupText_iff (hlength : captured.length = r.names.length)
    (hname : r.names[n]? = some (some name)) :
    r.GroupText captured name text ↔ ((r.found captured).lookup name).getD [] = text := by
  obtain ⟨hn, -⟩ := List.getElem?_eq_some_iff.mp hname
  rw [lookup_found hname]
  constructor
  · intro h
    cases h with
    | took hi htext => rw [← r.names_differ name _ n hi hname, htext, Option.join_some, Option.getD_some]
    | noPart hi hnone => rw [← r.names_differ name _ n hi hname, hnone, Option.join_some, Option.getD_none]
  · rintro rfl
    cases hcaptured : captured[n]? with
    | none =>
      rw [List.getElem?_eq_none_iff] at hcaptured
      omega
    | some part =>
      cases part with
      | none => exact .noPart hname hcaptured
      | some text => exact .took hname hcaptured

end Regex

namespace Pattern

variable {p : Pattern} {name : Text} {n : Nat}

theorem mem_groups_iff : (name, n) ∈ p.groups ↔ p.regex.names[n]? = some (some name) := by
  rw [groups, List.mem_mergeSort, List.mem_map, ← Regex.mem_groups_iff]
  constructor
  · rintro ⟨⟨index, group⟩, hmem, heq⟩
    cases heq
    exact hmem
  · exact fun hmem => ⟨(n, name), hmem, rfl⟩

theorem mem_groups_of_group? (h : p.group? name = some n) : (name, n) ∈ p.groups :=
  mem_of_lookup_eq_some h

theorem group?_eq_some_iff
    (hunique : ∀ i j, (name, i) ∈ p.groups → (name, j) ∈ p.groups → i = j) :
    p.group? name = some n ↔ (name, n) ∈ p.groups := lookup_eq_some_iff_of_unique hunique

theorem hasGroup_iff : p.hasGroup name = true ↔ some name ∈ p.regex.names := by
  rw [hasGroup, Option.isSome_iff_exists, List.mem_iff_getElem?]
  constructor
  · rintro ⟨n, hn⟩
    exact ⟨n, mem_groups_iff.mp (mem_groups_of_group? hn)⟩
  · rintro ⟨n, hn⟩
    cases hgroup : p.group? name with
    | none =>
      have hne := List.lookup_eq_none_iff.mp hgroup _ (mem_groups_iff.mpr hn)
      simp at hne
    | some i => exact ⟨i, rfl⟩

end Pattern

namespace Compiler

theorem result_compile {c : Compiler} {expression out : Text} (h : c.expand expression = .ok out) :
    (c.compile expression).result = match c.engine.compile out with
      | .error message => .error (.invalidRegex expression message)
      | .ok regex => .ok ⟨expression, regex⟩ := by
  unfold compile
  rw [h, Report.result_andThen]
  cases hregex : c.engine.compile out with
  | error message => simp only [Report.ofResult, hregex, Except.bind, Report.fail]
  | ok regex =>
    simp only [Report.ofResult, hregex, Except.bind, Report.result_andThen]
    rfl

theorem result_compile_of_dialect {c : Compiler} {dialect : Regex.Dialect} {refusal : Text → Text}
    {expression out : Text} {regex : Regex} (hengine : c.engine = dialect.engine refusal)
    (hexpand : c.expand expression = .ok out) (hregex : Regex.compile? dialect out = some regex) :
    (c.compile expression).result = .ok ⟨expression, regex⟩ := by
  have hcompile : c.engine.compile out = .ok regex := by
    rw [hengine]
    exact Regex.Dialect.compile_engine_eq_ok_iff.mpr hregex
  rw [result_compile hexpand, hcompile]

theorem result_compile_of_error {c : Compiler} {expression : Text} {e : Error}
    (h : c.expand expression = .error e) : (c.compile expression).result = .error e := by
  unfold compile
  rw [h, Report.result_andThen]
  rfl

theorem compile_eq_ok_iff {c : Compiler} {expression : Text} {p : Pattern} :
    (c.compile expression).result = .ok p ↔ p.expression = expression ∧
      c.expand expression = .ok p.source ∧ c.engine.compile p.source = .ok p.regex := by
  cases hexpand : c.expand expression with
  | error e =>
    rw [result_compile_of_error hexpand]
    simp
  | ok out =>
    rw [result_compile hexpand]
    constructor
    · intro h
      cases hregex : c.engine.compile out with
      | error message =>
        rw [hregex] at h
        cases h
      | ok regex =>
        rw [hregex] at h
        cases h
        obtain rfl := c.engine.source_of_compile out regex hregex
        exact ⟨rfl, rfl, hregex⟩
    · rintro ⟨rfl, hout, hregex⟩
      cases hout
      rw [hregex]

theorem source_of_compile {c : Compiler} {expression out : Text} {p : Pattern}
    (hexpand : c.expand expression = .ok out) (h : (c.compile expression).result = .ok p) :
    p.source = out :=
  Except.ok.inj ((compile_eq_ok_iff.mp h).2.1.symm.trans hexpand)

end Compiler

end Grok
