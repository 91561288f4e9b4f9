import Grok.Dictionary.Basic
import Mathlib

namespace Grok

theorem findSome?_reverse_eq_some_iff {α β : Type} {f : α → Option β} {l : List α} {b : β} :
    l.reverse.findSome? f = some b ↔ ∃ before a after, l = before ++ a :: after ∧ f a = some b ∧
      ∀ later ∈ after, f later = none := by
  rw [List.findSome?_eq_some_iff]
  constructor
  · rintro ⟨after, a, before, hl, ha, hafter⟩
    refine ⟨before.reverse, a, after.reverse, ?_, ha, ?_⟩
    · simpa using congrArg List.reverse hl
    · simpa using hafter
  · rintro ⟨before, a, after, rfl, ha, hafter⟩
    refine ⟨after.reverse, a, before.reverse, ?_, ha, ?_⟩
    · simp
    · simpa using hafter

namespace Dictionary

variable {d d' other : Dictionary} {name definition : Text} {pairs pairs' : List (Text × Text)}

theorem nodup_names (d : Dictionary) : d.names.Nodup := by
  rw [names, List.Nodup, List.pairwise_map]
  exact d.sorted.imp Text.ne_of_lt

theorem mem_entries_iff : (name, definition) ∈ d.entries ↔ d.get? name = some definition := by
  constructor
  · intro h
    cases hf : d.entries.find? (·.1 = name) with
    | none =>
      have hne := List.find?_eq_none.mp hf _ h
      simp at hne
    | some entry =>
      have hmem := List.mem_of_find?_eq_some hf
      have hname : entry.1 = name := by simpa using List.find?_some hf
      have heq : entry = (name, definition) :=
        List.inj_on_of_nodup_map d.nodup_names hmem h hname
      simp [get?, hf, heq]
  · intro h
    obtain ⟨entry, hfind, rfl⟩ := Option.map_eq_some_iff.mp h
    have hname : entry.1 = name := by simpa using List.find?_some hfind
    subst hname
    exact List.mem_of_find?_eq_some hfind

theorem ext_get? (h : ∀ name, d.get? name = d'.get? name) : d = d' := by
  have : Std.Irrefl fun a b : Text × Text => a.1 < b.1 := ⟨fun a => Text.lt_irrefl a.1⟩
  have : Std.Antisymm fun a b : Text × Text => a.1 < b.1 :=
    ⟨fun a b hab hba => absurd (Text.lt_trans hab hba) (Text.lt_irrefl a.1)⟩
  have heq : d.entries = d'.entries := by
    apply d.sorted.eq_of_mem_iff d'.sorted
    rintro ⟨name, definition⟩
    rw [mem_entries_iff, mem_entries_iff, h]
  cases d
  cases d'
  simpa using heq

@[simp]
theorem get?_empty : (∅ : Dictionary).get? name = none := rfl

theorem find?_insertEntry (entries : List (Text × Text)) (n : Text) :
    (insertEntry name definition entries).find? (·.1 = n) =
      if n = name then some (name, definition) else entries.find? (·.1 = n) := by
  induction entries with
  | nil => by_cases h : n = name <;> simp [insertEntry, h, eq_comm]
  | cons entry rest ih =>
    simp only [insertEntry]
    split
    · by_cases h : n = name <;> simp [h, eq_comm]
    next hlt =>
      split
      next hgt =>
        by_cases h : n = name
        · subst h
          simp [ih, Text.ne_of_lt hgt]
        · simp [List.find?_cons, ih, h]
      next hgt =>
        have hname : name = entry.1 := Text.eq_of_not_lt hlt hgt
        by_cases h : n = name
        · simp [h]
        · have hne : entry.1 ≠ n := by rw [← hname]; exact Ne.symm h
          simp [h, hne, Ne.symm h]

theorem get?_insert (n : Text) :
    (d.insert name definition).get? n = if n = name then some definition else d.get? n := by
  simp only [get?, insert, find?_insertEntry]
  split <;> rfl

def definitionIn (name : Text) (pair : Text × Text) : Option Text :=
  if pair.1 = name then some pair.2 else none

theorem definitionIn_eq_some_iff {pair : Text × Text} :
    definitionIn name pair = some definition ↔ pair = (name, definition) := by
  simp [definitionIn, Prod.ext_iff]

theorem get?_insertMany (pairs : List (Text × Text)) :
    (d.insertMany pairs).get? name =
      (pairs.reverse.findSome? (definitionIn name)).or (d.get? name) := by
  induction pairs generalizing d with
  | nil => simp [insertMany]
  | cons pair rest ih =>
    have hstep : d.insertMany (pair :: rest) = (d.insert pair.1 pair.2).insertMany rest := rfl
    rw [hstep, ih, get?_insert, List.reverse_cons, List.findSome?_append, Option.or_assoc]
    by_cases h : pair.1 = name
    · simp [definitionIn, h]
    · simp [definitionIn, h, Ne.symm h]

theorem findSome?_eq_some_iff_mem (hnames : (pairs.map (·.1)).Nodup) :
    pairs.findSome? (definitionIn name) = some definition ↔ (name, definition) ∈ pairs := by
  constructor
  · intro h
    obtain ⟨pair, hmem, hpair⟩ := List.exists_of_findSome?_eq_some h
    rwa [definitionIn_eq_some_iff.mp hpair] at hmem
  · intro h
    cases hfind : pairs.findSome? (definitionIn name) with
    | none =>
      have hnone := List.findSome?_eq_none_iff.mp hfind _ h
      simp [definitionIn] at hnone
    | some own =>
      obtain ⟨pair, hmem, hpair⟩ := List.exists_of_findSome?_eq_some hfind
      rw [definitionIn_eq_some_iff.mp hpair] at hmem
      cases List.inj_on_of_nodup_map hnames hmem h rfl
      rfl

theorem insertMany_perm (hnames : (pairs.map (·.1)).Nodup) (h : pairs.Perm pairs') :
    d.insertMany pairs = d.insertMany pairs' := by
  have hperm : pairs.reverse.Perm pairs'.reverse :=
    (List.reverse_perm pairs).trans (h.trans (List.reverse_perm pairs').symm)
  have hnodup : (pairs.reverse.map (·.1)).Nodup :=
    ((List.reverse_perm pairs).map _).nodup_iff.mpr hnames
  have hnodup' : (pairs'.reverse.map (·.1)).Nodup := (hperm.map _).nodup_iff.mp hnodup
  apply ext_get?
  intro name
  rw [get?_insertMany, get?_insertMany]
  congr 1
  ext definition
  rw [findSome?_eq_some_iff_mem hnodup, findSome?_eq_some_iff_mem hnodup', hperm.mem_iff]

theorem findSome?_entries {entries : List (Text × Text)} (h : entries.Perm d.entries) :
    entries.findSome? (definitionIn name) = d.get? name := by
  have hnames : (entries.map (·.1)).Nodup := (h.map _).nodup_iff.mpr d.nodup_names
  ext definition
  rw [findSome?_eq_some_iff_mem hnames, h.mem_iff, mem_entries_iff]

theorem get?_merge : (d.merge other).get? name = (other.get? name).or (d.get? name) := by
  rw [merge, get?_insertMany, findSome?_entries (List.reverse_perm _)]

theorem merge_empty (d : Dictionary) : d.merge ∅ = d := rfl

theorem empty_merge (d : Dictionary) : (∅ : Dictionary).merge d = d := by
  apply ext_get?
  intro name
  rw [get?_merge, get?_empty, Option.or_none]

theorem merge_insert :
    d.merge (other.insert name definition) = (d.merge other).insert name definition := by
  apply ext_get?
  intro n
  rw [get?_merge, get?_insert, get?_insert, get?_merge]
  split <;> simp

theorem merge_assoc : (d.merge d').merge other = d.merge (d'.merge other) := by
  apply ext_get?
  intro name
  rw [get?_merge, get?_merge, get?_merge, get?_merge, Option.or_assoc]

theorem insertMany_of_perm {entries : List (Text × Text)} (h : entries.Perm other.entries) :
    d.insertMany entries = d.merge other :=
  insertMany_perm ((h.map _).nodup_iff.mpr other.nodup_names) h

end Dictionary

end Grok
