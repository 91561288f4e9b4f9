import Grok.Proofs.FileTree.Lookup

/-!
Walks in trees that get a new hidden entry. The walk is told by the directories that it is in: it
passes over the new entry, unless that is a link which leads nowhere or back to one of them.
-/

namespace Grok.FileTree

open FileNode

section Order

variable {α : Type} {parts parts' : List (Path × List α)}

theorem mergeSort_names_unique {sorted : List (Path × List α)} (hnames : (parts.map (·.1)).Nodup)
    (hsorted : sorted.Pairwise fun a b => a.1 < b.1) (hperm : sorted.Perm parts) :
    parts.mergeSort (fun a b => decide ¬b.1 < a.1) = sorted := by
  have : Std.Irrefl fun a b : Path × List α => a.1 < b.1 := ⟨fun a => List.lt_irrefl a.1⟩
  have : Std.Antisymm fun a b : Path × List α => a.1 < b.1 :=
    ⟨fun a b hab hba => absurd (List.lt_trans hab hba) (List.lt_irrefl a.1)⟩
  apply (pairwise_mergeSort_names hnames).eq_of_mem_iff hsorted
  intro part
  rw [List.mem_mergeSort, hperm.mem_iff]

theorem inOrder_of_perm (hnames : (parts.map (·.1)).Nodup) (hperm : parts'.Perm parts) :
    inOrder parts' = inOrder parts := by
  have hnames' : (parts'.map (·.1)).Nodup := (hperm.map _).nodup_iff.mpr hnames
  have hsorted := mergeSort_names_unique hnames (pairwise_mergeSort_names hnames')
    ((List.mergeSort_perm _ _).trans hperm)
  rw [inOrder, inOrder, hsorted]

theorem inOrder_filter (hnames : (parts.map (·.1)).Nodup) :
    inOrder (parts.filter (!·.2.isEmpty)) = inOrder parts := by
  have hnames' : ((parts.filter (!·.2.isEmpty)).map (·.1)).Nodup :=
    hnames.sublist (List.filter_sublist.map _)
  have hsorted := mergeSort_names_unique hnames'
    ((pairwise_mergeSort_names hnames).filter (!·.2.isEmpty))
    ((List.mergeSort_perm _ _).filter _)
  rw [inOrder, inOrder, hsorted]
  generalize parts.mergeSort _ = sorted
  induction sorted with
  | nil => rfl
  | cons part rest ih =>
    cases h : part.2 with
    | nil => rw [List.filter_cons_of_neg (by simp [h]), ih, List.flatMap_cons, h, List.nil_append]
    | cons a more => rw [List.filter_cons_of_pos (by simp [h]), List.flatMap_cons, List.flatMap_cons, ih]

theorem inOrder_append_empty {more : List (Path × List α)} (hempty : ∀ part ∈ more, part.2 = [])
    (hnames : ((more ++ parts).map (·.1)).Nodup) : inOrder (more ++ parts) = inOrder parts := by
  have hfilter : more.filter (!·.2.isEmpty) = [] := by
    rw [List.filter_eq_nil_iff]
    intro part hpart
    simp [hempty part hpart]
  have hparts : (parts.map (·.1)).Nodup := by
    rw [List.map_append] at hnames
    exact hnames.of_append_right
  rw [← inOrder_filter hnames, List.filter_append, hfilter, List.nil_append, inOrder_filter hparts]

end Order

/-- A walk comes into a directory, while it is in the directories above, from the innermost one to the
one at the top. It goes into the directories that are not hidden, and through links to directories
unless it is in them. -/
inductive Enters (tree : FileTree) (top : List Path) : List Path → List (List Path) → Prop
  | top : Enters tree top top []
  | directory {here : List Path} {name : Path} {above : List (List Path)}
      {entries : List (Path × FileNode)} (henters : Enters tree top here above)
      (hvisible : ¬DotName name)
      (hnode : tree.node? (name :: here) = some (.directory entries)) :
      Enters tree top (name :: here) (here :: above)
  | link {here way : List Path} {name target : Path} {above : List (List Path)}
      {entries : List (Path × FileNode)} (henters : Enters tree top here above)
      (hvisible : ¬DotName name) (hnode : tree.node? (name :: here) = some (.link target))
      (htarget : tree.lookupFrom here target = .ok (way, .directory entries))
      (hfree : way ∉ here :: above) : Enters tree top way (here :: above)

/-- The visits with the new entry: nothing but broken entries is new, and nothing at all unless the new
entry is found broken. -/
structure Widened (broken : Prop) (visits visits' : List Visit) : Prop where
  same : ¬broken → visits' = visits
  mem : ∀ visit ∈ visits', (∃ failure, visit = .broken failure) ∨ visit ∈ visits

theorem Widened.refl (broken : Prop) (visits : List Visit) : Widened broken visits visits :=
  ⟨fun _ => rfl, fun _ h => .inr h⟩

theorem Widened.inOrder {broken : Prop} {names names' more : List Path} {f f' : Path → List Visit}
    (hnames : names'.Nodup) (hperm : names'.Perm (more ++ names))
    (hold : ∀ name ∈ names, Widened broken (f name) (f' name))
    (hnew : ∀ name ∈ more, Widened broken [] (f' name)) :
    Widened broken (FileTree.inOrder (names.map fun name => (name, f name)))
      (FileTree.inOrder (names'.map fun name => (name, f' name))) := by
  constructor
  · intro hbroken
    have hnames' : (((more ++ names).map fun name => (name, f' name)).map (·.1)).Nodup := by
      simpa [Function.comp_def] using hperm.nodup_iff.mp hnames
    have hcongr : names.map (fun name => (name, f' name)) = names.map fun name => (name, f name) := by
      apply List.map_congr_left
      intro name hname
      rw [(hold name hname).same hbroken]
    rw [inOrder_of_perm hnames' (hperm.map _), List.map_append, inOrder_append_empty, hcongr]
    · intro part hpart
      obtain ⟨name, hname, rfl⟩ := List.mem_map.mp hpart
      exact (hnew name hname).same hbroken
    · rwa [List.map_append] at hnames'
  · intro visit hvisit
    obtain ⟨part, hpart, hmem⟩ := mem_inOrder.mp hvisit
    obtain ⟨name, hname, rfl⟩ := List.mem_map.mp hpart
    rcases List.mem_append.mp (hperm.mem_iff.mp hname) with hname | hname
    · exact .inl (((hnew name hname).mem visit hmem).resolve_right List.not_mem_nil)
    · refine ((hold name hname).mem visit hmem).imp_right fun h => ?_
      exact mem_inOrder.mpr ⟨_, List.mem_map_of_mem hname, h⟩

section Hidden

variable {tree : FileTree} {top place here : List Path} {above : List (List Path)} {inside : Inside}
  {name : Path} {node : FileNode}

end Hidden

section Walk

variable {tree : FileTree} {name : Path} {place top : List Path} {new : FileNode}
  {siblings : List (Path × FileNode)} (htree : tree.root.WellFormed) (hnew : new.WellFormed)
  (hplace : tree.node? place = some (.directory siblings)) (hfresh : name ∉ siblings.map (·.1))
  (hhidden : DotName name)

include htree hnew hplace hfresh hhidden

end Walk

section Visits

variable {tree : FileTree} (htree : tree.root.WellFormed) {top here : List Path}
  {above : List (List Path)} {entries : List (Path × FileNode)}
include htree

end Visits

end Grok.FileTree
