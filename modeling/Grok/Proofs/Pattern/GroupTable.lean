import Grok.Proofs.Pattern.Compiled

namespace Grok

namespace Regex

variable {r : Regex}

theorem nodup_groups (r : Regex) : r.groups.Nodup := by
  have hnumbers : r.names.zipIdx.Nodup := by
    apply List.Nodup.of_map Prod.snd
    rw [List.zipIdx_map_snd]
    exact List.nodup_range'
  refine hnumbers.filterMap ?_
  rintro ⟨a, i⟩ ⟨b, j⟩ group hi hj
  obtain ⟨name, rfl, rfl⟩ := Option.map_eq_some_iff.mp hi
  obtain ⟨other, rfl, heq⟩ := Option.map_eq_some_iff.mp hj
  cases heq
  rfl

theorem nodup_group_names (r : Regex) : (r.groups.map (·.2)).Nodup := by
  apply r.nodup_groups.map_on
  rintro ⟨i, name⟩ hi ⟨j, other⟩ hj rfl
  rw [r.names_differ name i j (mem_groups_iff.mp hi) (mem_groups_iff.mp hj)]

theorem nodup_found_names (r : Regex) (captured : List (Option Text)) :
    ((r.found captured).map (·.1)).Nodup := by
  have hnames := List.pairwise_map.mp r.nodup_group_names
  rw [List.Nodup, List.pairwise_map, found, List.pairwise_filterMap]
  refine hnames.imp ?_
  rintro ⟨i, name⟩ ⟨j, other⟩ hne entry hentry entry' hentry'
  obtain ⟨text, -, rfl⟩ := Option.map_eq_some_iff.mp hentry
  obtain ⟨text', -, rfl⟩ := Option.map_eq_some_iff.mp hentry'
  exact hne

end Regex

namespace Pattern

variable {p : Pattern} {name : Text} {n : Nat}

theorem groupNames_pairwise_lt (p : Pattern) : p.groupNames.Pairwise (· < ·) := by
  rw [groupNames, List.pairwise_map]
  apply pairwise_mergeSort_names
  rw [List.map_map]
  exact p.regex.nodup_group_names

theorem mem_groupNames_iff_names : name ∈ p.groupNames ↔ some name ∈ p.regex.names := by
  rw [groupNames, List.mem_map, List.mem_iff_getElem?]
  constructor
  · rintro ⟨⟨own, n⟩, hmem, rfl⟩
    exact ⟨n, mem_groups_iff.mp hmem⟩
  · rintro ⟨n, hn⟩
    exact ⟨(name, n), mem_groups_iff.mpr hn, rfl⟩

theorem group?_eq_some_iff_names :
    p.group? name = some n ↔ p.regex.names[n]? = some (some name) := by
  rw [group?_eq_some_iff, mem_groups_iff]
  intro i j hi hj
  exact p.regex.names_differ name i j (mem_groups_iff.mp hi) (mem_groups_iff.mp hj)

theorem captures_eq_some_iff {line : Text} {fields : List (Text × Text)} :
    p.captures line = .ok (some fields) ↔
      ∃ captured, p.regex.captures line = .ok (some captured) ∧ fields = p.regex.found captured := by
  rw [captures, Regex.fields_eq_map]
  cases p.regex.captures line with
  | error failure => simp [Except.map, Except.mapError]
  | ok captured? => cases captured? <;> simp [Except.map, Except.mapError, eq_comm]

end Pattern

namespace Compiler

/-- In a match, a name has a text exactly when the table gives it the number of a group that took part
with that text. The table is in strict order of the names, and no two names have one number. -/
theorem fields_agree_with_group_table (p : Pattern) :
    (∀ line fields, p.captures line = .ok (some fields) →
      (fields.map (·.1)).Nodup ∧
      ∃ captured, p.regex.captures line = .ok (some captured) ∧
        ∀ name text, fields.lookup name = some text ↔
          ∃ n, p.group? name = some n ∧ captured[n]? = some (some text)) ∧
    (∀ name, (p.hasGroup name = true ↔ ∃ n, p.group? name = some n) ∧
      (p.hasGroup name = true ↔ name ∈ p.groupNames)) ∧
    p.groupNames.Pairwise (· < ·) ∧
    ∀ name n, p.group? name = some n →
      n ≠ 0 ∧ ∀ other, other ≠ name → p.group? other ≠ some n := by
  refine ⟨fun line fields hfields => ?_, fun name => ⟨?_, ?_⟩,
    p.groupNames_pairwise_lt, fun name n hn => ?_⟩
  · obtain ⟨captured, hline, rfl⟩ := Pattern.captures_eq_some_iff.mp hfields
    have hnodup := p.regex.nodup_found_names captured
    refine ⟨hnodup, captured, hline, fun name text => ?_⟩
    rw [lookup_eq_some_iff_mem hnodup, Regex.mem_found_iff]
    simp only [Pattern.group?_eq_some_iff_names]
  · exact Option.isSome_iff_exists
  · rw [Pattern.hasGroup_iff, Pattern.mem_groupNames_iff_names]
  · rw [Pattern.group?_eq_some_iff_names] at hn
    refine ⟨?_, fun other hne hother => ?_⟩
    · rintro rfl
      cases hn.symm.trans (p.regex.whole_unnamed)
    · rw [Pattern.group?_eq_some_iff_names] at hother
      cases hn.symm.trans hother
      exact hne rfl

theorem names_out_of_order_keep_their_groups :
    let c : Compiler :=
      { dictionary := .ofList [("A", "a"), ("B", "b")], engine := Regex.Dialect.linear.terse }
    ∃ p fields, (c.compile "%{A:__}%{B:_}").result = .ok p ∧ p.captures "ab" = .ok (some fields) ∧
      p.group? "__" = some 1 ∧ p.group? "_" = some 2 ∧ fields.lookup ("__" : Text) = some ("a" : Text) ∧
      fields.lookup ("_" : Text) = some ("b" : Text) ∧ fields.lookup ("A" : Text) = none := by
  intro c
  have hexpand : c.expand "%{A:__}%{B:_}" = .ok "(?P<__>a)(?P<_>b)" := by cbv
  let names : List (Option Text) := [none, some "__", some "_"]
  let parts : List (Option Text) := [some "ab", some "a", some "b"]
  have hcompile : (Regex.compile? .linear "(?P<__>a)(?P<_>b)").map (·.names) = some names := by
    decide +kernel
  have hline : (Regex.compile? .linear "(?P<__>a)(?P<_>b)").map (·.captures "ab") =
      some (.ok (some parts)) := by decide +kernel
  obtain ⟨r, hr, hnames⟩ := Option.map_eq_some_iff.mp hcompile
  rw [hr] at hline
  rw [← Regex.source_of_compile? hr] at hexpand hr
  let p : Pattern := ⟨"%{A:__}%{B:_}", r⟩
  have hp : (c.compile "%{A:__}%{B:_}").result = .ok p :=
    compile_eq_ok_iff.mpr ⟨rfl, hexpand, Regex.Dialect.compile_engine_eq_ok_iff.mpr hr⟩
  have hcaptures : p.captures "ab" = .ok (some (r.found parts)) :=
    Pattern.captures_eq_some_iff.mpr ⟨parts, Option.some.inj hline, rfl⟩
  have hfirst : p.group? "__" = some 1 :=
    Pattern.group?_eq_some_iff_names.mpr (congrArg (·[1]?) hnames)
  have hsecond : p.group? "_" = some 2 :=
    Pattern.group?_eq_some_iff_names.mpr (congrArg (·[2]?) hnames)
  obtain ⟨-, captured, hcaptured, hfields⟩ := (fields_agree_with_group_table p).1 _ _ hcaptures
  cases (Option.some.inj hline).symm.trans hcaptured
  refine ⟨p, _, hp, hcaptures, hfirst, hsecond, (hfields _ _).mpr ⟨1, hfirst, rfl⟩,
    (hfields _ _).mpr ⟨2, hsecond, rfl⟩, ?_⟩
  apply Option.eq_none_iff_forall_ne_some.mpr
  intro text htext
  obtain ⟨n, hn, -⟩ := (hfields _ _).mp htext
  have hmem := Pattern.hasGroup_iff.mp (Option.isSome_iff_exists.mpr ⟨n, hn⟩)
  rw [hnames] at hmem
  exact absurd hmem (by decide)

end Compiler

end Grok
