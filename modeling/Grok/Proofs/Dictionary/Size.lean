import Grok.Proofs.Dictionary.Lookup

namespace Grok.Dictionary

variable {d other : Dictionary} {name definition n : Text}

theorem contains_iff : d.contains name = true ↔ name ∈ d.names := by
  rw [contains, Option.isSome_iff_ne_none, ne_eq, get?_eq_none_iff, not_not]

theorem mem_names_insert : n ∈ (d.insert name definition).names ↔ n = name ∨ n ∈ d.names := by
  rw [← contains_iff, ← contains_iff, contains, contains, get?_insert]
  split_ifs with h <;> simp [h]

theorem mem_names_merge : name ∈ (d.merge other).names ↔ name ∈ d.names ∨ name ∈ other.names := by
  rw [← contains_iff, ← contains_iff, ← contains_iff, contains, contains, contains, get?_merge,
    Option.isSome_or, Bool.or_eq_true, or_comm]

theorem mem_common_iff : name ∈ d.common other ↔ name ∈ d.names ∧ name ∈ other.names := by
  rw [common, List.mem_filter, contains_iff, and_comm]

theorem nodup_common (d other : Dictionary) : (d.common other).Nodup := other.nodup_names.filter _

theorem eq_empty_iff : d = ∅ ↔ ∀ name, name ∉ d.names := by
  constructor
  · rintro rfl name
    exact List.not_mem_nil
  · intro h
    apply ext_get?
    intro name
    rw [get?_empty, get?_eq_none_iff]
    exact h name

theorem isEmpty_iff : d.isEmpty = true ↔ d = ∅ := by
  rw [isEmpty, List.isEmpty_iff, eq_empty_iff, ← List.eq_nil_iff_forall_not_mem, names,
    List.map_eq_nil_iff]

theorem merge_eq_empty_iff : d.merge other = ∅ ↔ d = ∅ ∧ other = ∅ := by
  simp only [eq_empty_iff, mem_names_merge, not_or, forall_and]

theorem size_eq_card (d : Dictionary) : d.size = d.names.toFinset.card := by
  rw [List.toFinset_card_of_nodup d.nodup_names, names, List.length_map, size]

theorem size_insert : (d.insert name definition).size =
    if name ∈ d.names then d.size else d.size + 1 := by
  have hnames : (d.insert name definition).names.toFinset =
      Insert.insert name d.names.toFinset := by
    ext n
    rw [List.mem_toFinset, mem_names_insert, Finset.mem_insert, List.mem_toFinset]
  rw [size_eq_card, size_eq_card, hnames]
  split_ifs with h
  · rw [Finset.insert_eq_of_mem (List.mem_toFinset.mpr h)]
  · rw [Finset.card_insert_of_notMem (mt List.mem_toFinset.mp h)]

theorem size_merge (d other : Dictionary) :
    (d.merge other).size + (d.common other).length = d.size + other.size := by
  have hmerge : (d.merge other).names.toFinset = d.names.toFinset ∪ other.names.toFinset := by
    ext name
    simp only [List.mem_toFinset, mem_names_merge, Finset.mem_union]
  have hcommon : (d.common other).toFinset = d.names.toFinset ∩ other.names.toFinset := by
    ext name
    simp only [List.mem_toFinset, mem_common_iff, Finset.mem_inter]
  rw [← List.toFinset_card_of_nodup (nodup_common d other), size_eq_card, size_eq_card, size_eq_card,
    hmerge, hcommon, Finset.card_union_add_card_inter]

end Grok.Dictionary
