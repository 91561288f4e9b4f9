import Grok.Text.Order
import Mathlib

namespace Grok

section Lookup

variable {κ α : Type} [BEq κ] [LawfulBEq κ] {entries : List (κ × α)} {name : κ} {a : α}

theorem mem_of_lookup_eq_some (h : entries.lookup name = some a) : (name, a) ∈ entries := by
  obtain ⟨before, after, rfl, -⟩ := List.lookup_eq_some_iff.mp h
  exact List.mem_append_right _ List.mem_cons_self

theorem lookup_eq_some_iff_of_unique
    (hunique : ∀ a b, (name, a) ∈ entries → (name, b) ∈ entries → a = b) :
    entries.lookup name = some a ↔ (name, a) ∈ entries := by
  refine ⟨mem_of_lookup_eq_some, fun hmem => ?_⟩
  cases hlookup : entries.lookup name with
  | none =>
    have hne := List.lookup_eq_none_iff.mp hlookup _ hmem
    simp at hne
  | some b => rw [hunique a b hmem (mem_of_lookup_eq_some hlookup)]

theorem lookup_eq_some_iff_mem (hnames : (entries.map (·.1)).Nodup) :
    entries.lookup name = some a ↔ (name, a) ∈ entries := by
  apply lookup_eq_some_iff_of_unique
  intro a b ha hb
  exact congrArg Prod.snd (List.inj_on_of_nodup_map hnames ha hb rfl)

theorem lookup_filter (p : κ → Bool) (entries : List (κ × α)) (name : κ) :
    (entries.filter fun entry => p entry.1).lookup name =
      if p name then entries.lookup name else none := by
  induction entries with
  | nil => simp
  | cons entry rest ih =>
    obtain ⟨own, a⟩ := entry
    by_cases hown : name = own
    · subst hown
      cases hp : p name <;> simp [hp, ih]
    · have hne : (name == own) = false := by simpa using hown
      cases hp : p own <;> simp [List.lookup_cons, hp, hne, ih]

end Lookup

section Order

variable {β α : Type} [DecidableEq β] [LT β] [LE β] [DecidableLT β] [Std.IsLinearOrder β]
  [Std.LawfulOrderLT β]
  {entries : List (List β × α)}

theorem pairwise_mergeSort_names (hnames : (entries.map (·.1)).Nodup) :
    (entries.mergeSort fun a b => decide ¬b.1 < a.1).Pairwise fun a b => a.1 < b.1 := by
  have hperm := List.mergeSort_perm entries fun a b => decide ¬b.1 < a.1
  have hne : (entries.mergeSort fun a b => decide ¬b.1 < a.1).Pairwise fun a b => a.1 ≠ b.1 :=
    List.pairwise_map.mp ((hperm.map _).nodup_iff.mpr hnames)
  have hle : (entries.mergeSort fun a b => decide ¬b.1 < a.1).Pairwise
      fun a b => decide (¬b.1 < a.1) = true := by
    apply List.pairwise_mergeSort
    · simp only [decide_eq_true_eq]
      intro a b c hab hbc
      exact List.le_trans hab hbc
    · simp only [Bool.or_eq_true, decide_eq_true_eq]
      intro a b
      exact List.le_total a.1 b.1
  refine hle.imp₂ ?_ hne
  intro a b hab hne
  by_contra hlt
  exact hne (List.le_antisymm (of_decide_eq_true hab) hlt)

end Order

end Grok
