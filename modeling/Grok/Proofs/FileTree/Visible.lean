import Grok.FileTree.Walk
import Grok.Proofs.Text.Association
import Grok.Proofs.Text.Encoding

/-!
The files that a walk meets in a directory without links. They are the files below the directory
that neither are hidden nor lie under a name that is, and the walk meets them in the order of the names
on the way to them, compared from the outermost name on and by their bytes.
-/

namespace Grok

namespace FileTree

variable {α β : Type} {parts : List (Path × List α)}

/-- Among the names that are texts, those with a leading dot are told by their first byte. -/
theorem dotName_iff {name : Path} :
    DotName name ↔ name.head? = some Path.dot ∧ ∃ t : Text, name = t.encoded := by
  constructor
  · rintro ⟨rest, rfl⟩
    exact ⟨rfl, _, rfl⟩
  · rintro ⟨hdot, t, rfl⟩
    cases t with
    | nil => cases hdot
    | cons c rest =>
      have hfirst : (String.utf8EncodeChar c).head? = some (UInt8.ofNat ('.' : Char).val.toNat) := by
        rw [Text.encoded_cons, List.head?_append] at hdot
        cases hbytes : String.utf8EncodeChar c with
        | nil => exact absurd hbytes String.utf8EncodeChar_ne_nil
        | cons byte more => simpa [hbytes, Path.dot] using hdot
      obtain rfl := Text.eq_of_head?_utf8EncodeChar (by decide) hfirst
      exact ⟨rest, rfl⟩

theorem mem_inOrder {a : α} : a ∈ inOrder parts ↔ ∃ part ∈ parts, a ∈ part.2 := by
  simp [inOrder]

theorem inOrder_map (f : α → β) (parts : List (Path × List α)) :
    inOrder (parts.map fun part => (part.1, part.2.map f)) = (inOrder parts).map f := by
  rw [inOrder, inOrder, List.map_flatMap, ← List.map_mergeSort, List.flatMap_map]
  intros
  rfl

theorem pairwise_inOrder {R : α → α → Prop} (hnames : (parts.map (·.1)).Nodup)
    (hinside : ∀ part ∈ parts, part.2.Pairwise R)
    (hacross : ∀ part ∈ parts, ∀ other ∈ parts, part.1 < other.1 →
      ∀ a ∈ part.2, ∀ b ∈ other.2, R a b) : (inOrder parts).Pairwise R := by
  rw [inOrder, List.pairwise_flatMap]
  constructor
  · intro part hpart
    exact hinside part (List.mem_mergeSort.mp hpart)
  · refine (pairwise_mergeSort_names hnames).imp_of_mem ?_
    intro part other hpart hother hlt
    exact hacross part (List.mem_mergeSort.mp hpart) other (List.mem_mergeSort.mp hother) hlt

end FileTree

namespace FileNode

open FileTree

inductive Plain : FileNode → Prop
  | file (bytes : ByteArray) : Plain (.file bytes)
  | directory {entries : List (Path × FileNode)} (hnames : (entries.map (·.1)).Nodup)
      (hentries : ∀ entry ∈ entries, entry.2.Plain) : Plain (.directory entries)

/-- The files of a node that no name hides: the names on the way from the node to the file, the
outermost first, and the bytes. Their order is the one of the ways, name by name and each name by its
bytes: in a directory the entries come by name, files and directories mixed. -/
structure VisibleFiles (node : FileNode) (files : List (List Path × ByteArray)) : Prop where
  mem_iff : ∀ names bytes, (names, bytes) ∈ files ↔
    node.descend? names = some (.file bytes) ∧ ∀ name ∈ names, ¬DotName name
  sorted : files.Pairwise fun a b => a.1 < b.1

def underName (name : Path) (files : List (List Path × ByteArray)) : List (List Path × ByteArray) :=
  if isHidden name then [] else files.map fun file => (name :: file.1, file.2)

mutual

def visible : FileNode → List (List Path × ByteArray)
  | .file bytes => [([], bytes)]
  | .directory entries => inOrder (visibleAmong entries)
  | .link _ => []

def visibleAmong : List (Path × FileNode) → List (Path × List (List Path × ByteArray))
  | [] => []
  | (name, node) :: rest => (name, underName name node.visible) :: visibleAmong rest

end

variable {node : FileNode} {entries : List (Path × FileNode)}
  {files files' : List (List Path × ByteArray)}

theorem VisibleFiles.unique (h : VisibleFiles node files) (h' : VisibleFiles node files') :
    files = files' := by
  have : Std.Irrefl fun a b : List Path × ByteArray => a.1 < b.1 := ⟨fun a => List.lt_irrefl _⟩
  have : Std.Antisymm fun a b : List Path × ByteArray => a.1 < b.1 :=
    ⟨fun a b hab hba => absurd (List.lt_trans hab hba) (List.lt_irrefl _)⟩
  apply h.sorted.eq_of_mem_iff h'.sorted
  rintro ⟨names, bytes⟩
  rw [h.mem_iff, h'.mem_iff]

theorem visibleAmong_eq (entries : List (Path × FileNode)) :
    visibleAmong entries = entries.map fun entry => (entry.1, underName entry.1 entry.2.visible) := by
  induction entries with
  | nil => rw [visibleAmong, List.map_nil]
  | cons entry rest ih => rw [visibleAmong, ih, List.map_cons]

theorem mem_underName {name : Path} {names : List Path} {bytes : ByteArray} :
    (names, bytes) ∈ underName name files ↔
      isHidden name = false ∧ ∃ rest, names = name :: rest ∧ (rest, bytes) ∈ files := by
  unfold underName
  split
  · simp_all
  · simp only [List.mem_map, Prod.exists, Prod.mk.injEq]
    constructor
    · rintro ⟨rest, bytes, hmem, rfl, rfl⟩
      exact ⟨by simp_all, rest, rfl, hmem⟩
    · rintro ⟨-, rest, rfl, hmem⟩
      exact ⟨rest, bytes, hmem, rfl, rfl⟩

theorem descend?_directory_cons (name : Path) (rest : List Path) :
    (directory entries).descend? (name :: rest) = (entries.lookup name).bind (·.descend? rest) :=
  rfl

theorem mem_visibleAmong {part : Path × List (List Path × ByteArray)} :
    part ∈ visibleAmong entries ↔
      ∃ name node, (name, node) ∈ entries ∧ (name, underName name node.visible) = part := by
  simp [visibleAmong_eq]

theorem mem_visible_directory {names : List Path} {bytes : ByteArray} :
    (names, bytes) ∈ (directory entries).visible ↔
      ∃ name node rest, names = name :: rest ∧ (name, node) ∈ entries ∧ ¬DotName name ∧
        (rest, bytes) ∈ node.visible := by
  rw [visible, mem_inOrder]
  simp only [mem_visibleAmong, ← isHidden_eq_false_iff]
  constructor
  · rintro ⟨_, ⟨name, node, hentry, rfl⟩, hmem⟩
    obtain ⟨hhidden, rest, rfl, hrest⟩ := mem_underName.mp hmem
    exact ⟨name, node, rest, rfl, hentry, hhidden, hrest⟩
  · rintro ⟨name, node, rest, rfl, hentry, hhidden, hrest⟩
    exact ⟨_, ⟨name, node, hentry, rfl⟩, mem_underName.mpr ⟨hhidden, rest, rfl, hrest⟩⟩

theorem mem_visible_iff (h : node.Plain) (names : List Path) (bytes : ByteArray) :
    (names, bytes) ∈ node.visible ↔
      node.descend? names = some (.file bytes) ∧ ∀ name ∈ names, ¬DotName name := by
  induction h generalizing names with
  | file other =>
    rw [visible]
    cases names with
    | nil => simpa [descend?] using eq_comm
    | cons name rest => simp [descend?, child?]
  | @directory entries hnames hentries ih =>
    rw [mem_visible_directory]
    constructor
    · rintro ⟨name, node, rest, rfl, hentry, hhidden, hrest⟩
      obtain ⟨hnode, hnone⟩ := (ih _ hentry rest).mp hrest
      rw [descend?_directory_cons, (lookup_eq_some_iff_mem hnames).mpr hentry, List.forall_mem_cons]
      exact ⟨hnode, hhidden, hnone⟩
    · rintro ⟨hnode, hhidden⟩
      cases names with
      | nil => cases hnode
      | cons name rest =>
        rw [descend?_directory_cons, Option.bind_eq_some_iff] at hnode
        rw [List.forall_mem_cons] at hhidden
        obtain ⟨node, hentry, hnode⟩ := hnode
        rw [lookup_eq_some_iff_mem hnames] at hentry
        exact ⟨name, node, rest, rfl, hentry, hhidden.1, (ih _ hentry rest).mpr ⟨hnode, hhidden.2⟩⟩

theorem sorted_visible (h : node.Plain) :
    node.visible.Pairwise fun a b => a.1 < b.1 := by
  induction h with
  | file bytes =>
    rw [visible]
    exact List.pairwise_singleton _ _
  | @directory entries hnames hentries ih =>
    rw [visible]
    apply pairwise_inOrder
    · simpa [visibleAmong_eq, Function.comp_def] using hnames
    · intro part hpart
      obtain ⟨name, node, hentry, rfl⟩ := mem_visibleAmong.mp hpart
      simp only [underName]
      split
      · exact .nil
      · rw [List.pairwise_map]
        exact (ih _ hentry).imp fun hlt => List.cons_lt_cons_iff.mpr (.inr ⟨rfl, hlt⟩)
    · intro part hpart other hother hlt
      obtain ⟨name, node, -, rfl⟩ := mem_visibleAmong.mp hpart
      obtain ⟨name', node', -, rfl⟩ := mem_visibleAmong.mp hother
      rintro ⟨names, bytes⟩ hmem ⟨names', bytes'⟩ hmem'
      obtain ⟨-, rest, rfl, -⟩ := mem_underName.mp hmem
      obtain ⟨-, rest', rfl, -⟩ := mem_underName.mp hmem'
      exact List.cons_lt_cons_iff.mpr (.inl hlt)

theorem visibleFiles_visible (h : node.Plain) : VisibleFiles node node.visible :=
  ⟨mem_visible_iff h, sorted_visible h⟩

end FileNode

namespace FileTree

open FileNode

def pathOf (directory : Path) (file : List Path × ByteArray) : Path :=
  file.1.foldl entryPath directory

def visitOf (directory : Path) (file : List Path × ByteArray) : Visit :=
  .file (pathOf directory file) file.2

theorem visitsAmong_eq (tree : FileTree) (inside : Inside) (here : List Path) (path : Path)
    (entries : List (Path × FileNode)) :
    visitsAmong tree inside here path entries = entries.map fun entry =>
      (entry.1, visitsAt tree inside here (entryPath path entry.1) entry.1 entry.2) := by
  induction entries with
  | nil => rw [visitsAmong, List.map_nil]
  | cons entry rest ih => rw [visitsAmong, ih, List.map_cons]

theorem inOrder_visitsAmong {tree : FileTree} {inside : Inside} {here : List Path}
    {path : Path} (h : ∀ entry ∈ entries,
      visitsAt tree inside here (entryPath path entry.1) entry.1 entry.2 =
        (underName entry.1 entry.2.visible).map (visitOf path)) :
    inOrder (visitsAmong tree inside here path entries) =
      (directory entries).visible.map (visitOf path) := by
  have hparts : visitsAmong tree inside here path entries =
      (visibleAmong entries).map fun part => (part.1, part.2.map (visitOf path)) := by
    rw [visitsAmong_eq, visibleAmong_eq, List.map_map]
    apply List.map_congr_left
    intro entry hentry
    rw [h entry hentry]
    rfl
  rw [hparts, inOrder_map, visible]

theorem visitsAt_of_plain (h : node.Plain) (tree : FileTree) (inside : Inside) (here : List Path)
    (path name : Path) :
    visitsAt tree inside here (entryPath path name) name node =
      (underName name node.visible).map (visitOf path) := by
  induction h generalizing inside here path name with
  | file bytes =>
    rw [visitsAt, visible, underName]
    split <;> rfl
  | @directory entries hnames hentries ih =>
    rw [visitsAt, underName]
    split
    · rfl
    · rw [inOrder_visitsAmong fun entry hentry => ih entry hentry _ _ _ _, List.map_map]
      rfl

theorem walk?_of_plain {tree : FileTree} {path : Path} {way : List Path}
    (hlookup : tree.lookup path = .ok (way, .directory entries))
    (hplain : (directory entries).Plain) :
    tree.walk? path = some ((directory entries).visible.map (visitOf path)) := by
  cases hplain with
  | directory _ hentries =>
    rw [walk?, hlookup]
    exact congrArg some (inOrder_visitsAmong fun entry hentry =>
      visitsAt_of_plain (hentries entry hentry) _ _ _ _ _)

end FileTree

end Grok
