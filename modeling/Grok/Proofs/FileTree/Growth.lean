import Grok.Proofs.FileTree.Visible

namespace Grok

namespace FileNode

inductive WellFormed : FileNode → Prop
  | file (bytes : ByteArray) : WellFormed (.file bytes)
  | link (target : Path) : WellFormed (.link target)
  | directory {entries : List (Path × FileNode)} (hnames : (entries.map (·.1)).Nodup)
      (hentries : ∀ entry ∈ entries, entry.2.WellFormed) : WellFormed (.directory entries)

variable {root node new : FileNode} {entries : List (Path × FileNode)} {name : Path}
  {place names way : List Path}

theorem insertAt_directory_cons (new : FileNode) (name : Path) (rest : List Path)
    (entries : List (Path × FileNode)) :
    insertAt new (name :: rest) (.directory entries) =
      .directory ((name, insertAt new rest ((entries.lookup name).getD (.directory []))) ::
        entries.filter (·.1 ≠ name)) := rfl

namespace WellFormed

theorem insertAt (hnew : new.WellFormed) (hroot : root.WellFormed) (way : List Path) :
    (FileNode.insertAt new way root).WellFormed := by
  induction way generalizing root with
  | nil => exact hnew
  | cons name rest ih =>
    have hempty : (FileNode.directory []).WellFormed := .directory (by simp) (by simp)
    have hsingle : (FileNode.directory [(name, FileNode.insertAt new rest (.directory []))]).WellFormed :=
      .directory (by simp) (by simpa using ih hempty)
    cases hroot with
    | file bytes => exact hsingle
    | link target => exact hsingle
    | @directory entries hnames hentries =>
      rw [insertAt_directory_cons]
      refine .directory ?_ (List.forall_mem_cons.mpr ⟨?_, ?_⟩)
      · rw [List.map_cons, List.nodup_cons]
        constructor
        · simp
        · exact hnames.sublist (List.filter_sublist.map _)
      · cases hchild : entries.lookup name with
        | none => exact ih hempty
        | some child => exact ih (hentries _ ((lookup_eq_some_iff_mem hnames).mp hchild))
      · exact fun entry hentry => hentries entry (List.mem_of_mem_filter hentry)

theorem descend? (hroot : root.WellFormed) (h : root.descend? names = some node) :
    node.WellFormed := by
  induction names generalizing root with
  | nil =>
    obtain rfl : root = node := by simpa [FileNode.descend?] using h
    exact hroot
  | cons name rest ih =>
    rw [FileNode.descend?] at h
    obtain ⟨child, hchild, hrest⟩ := Option.bind_eq_some_iff.mp h
    cases hroot with
    | file bytes => cases hchild
    | link target => cases hchild
    | directory hnames hentries =>
      exact ih (hentries _ ((lookup_eq_some_iff_mem hnames).mp hchild)) hrest

end WellFormed

end FileNode

namespace FileTree

open FileNode

variable {tree : FileTree} {name : Path} {place way : List Path} {node new : FileNode}
  {entries siblings : List (Path × FileNode)}

section

variable (hplace : tree.node? place = some (.directory siblings))
include hplace

end

end FileTree

end Grok
