import Grok.FileTree.Basic

/-!
The files below a directory, in the order of a walk that takes the entries of each directory by the
bytes of their names and enters directories as it meets them. Links are followed, and an entry that
cannot be followed is met as broken before its name is looked at. Otherwise the walk passes over an
entry whose name is a text with a leading dot; a name that is no text is never taken for hidden.
-/

namespace Grok.FileTree

inductive Visit where
  | file (path : Path) (bytes : ByteArray)
  | broken (failure : WalkFailure)

def isHidden (name : Path) : Bool := (name.text?.bind List.head?) = some '.'

/-- A name that encodes a text with a leading dot. Bytes that encode no text are no such name, even if
a dot is the first of them. -/
def DotName (name : Path) : Prop := ∃ rest : Text, name = Text.encoded ('.' :: rest)

theorem isHidden_iff {name : Path} : isHidden name = true ↔ DotName name := by
  simp only [isHidden, decide_eq_true_eq, Option.bind_eq_some_iff, Path.text?_eq_some_iff]
  constructor
  · rintro ⟨_ | ⟨c, rest⟩, rfl, hdot⟩
    · cases hdot
    · cases hdot
      exact ⟨rest, rfl⟩
  · rintro ⟨rest, rfl⟩
    exact ⟨_, rfl, rfl⟩

theorem isHidden_eq_false_iff {name : Path} : isHidden name = false ↔ ¬DotName name := by
  rw [← isHidden_iff, Bool.not_eq_true]

def entryPath (directory name : Path) : Path :=
  if directory.getLast? = some Path.slash then directory ++ name
  else directory ++ Path.slash :: name

def inOrder {α : Type} (parts : List (Path × List α)) : List α :=
  (parts.mergeSort fun a b => decide ¬b.1 < a.1).flatMap (·.2)

/-- The ways to the directories that the walk is in, each with the path that it came by. -/
abbrev Inside := List (List Path × Path)

def outside (tree : FileTree) (inside : Inside) : Nat :=
  (tree.root.directories []).countP fun way => (inside.lookup way).isNone

theorem isNone_of_isNone_cons {inside : Inside} {place : List Path × Path} {way : List Path}
    (h : (List.lookup way (place :: inside)).isNone = true) : (inside.lookup way).isNone = true := by
  rw [List.lookup_cons] at h
  split at h
  · cases h
  · exact h

theorem outside_cons_le (tree : FileTree) (inside : Inside) (place : List Path × Path) :
    tree.outside (place :: inside) ≤ tree.outside inside :=
  List.countP_mono_left fun _ _ => isNone_of_isNone_cons

theorem countP_lt_countP {α : Type} {p q : α → Bool} {a : α} {l : List α} (hmem : a ∈ l)
    (hq : q a = true) (hp : p a = false) (h : ∀ b, p b = true → q b = true) :
    l.countP p < l.countP q := by
  induction l with
  | nil => cases hmem
  | cons b rest ih =>
    rw [List.countP_cons, List.countP_cons]
    obtain rfl | hmem := List.mem_cons.mp hmem
    · have hle : rest.countP p ≤ rest.countP q := List.countP_mono_left fun b _ => h b
      simp only [hp, hq, if_true, Bool.false_eq_true, if_false]
      omega
    · have hlt := ih hmem
      by_cases hb : p b = true
      · simp only [hb, h b hb, if_true]
        omega
      · simp only [hb, Bool.false_eq_true, if_false]
        omega

theorem outside_cons_lt {tree : FileTree} {inside : Inside} {here way : List Path} {target : Path}
    {entries : List (Path × FileNode)}
    (htarget : tree.lookupFrom here target = .ok (way, .directory entries))
    (hway : inside.lookup way = none) (path : Path) :
    tree.outside ((way, path) :: inside) < tree.outside inside := by
  have hmem := FileNode.mem_directories_of_descend? (node?_of_lookupFrom htarget) []
  rw [List.reverse_reverse, List.append_nil] at hmem
  apply countP_lt_countP hmem
  · rw [hway]
    rfl
  · rw [List.lookup_cons_self]
    rfl
  · exact fun _ => isNone_of_isNone_cons

mutual

def visitsAt (tree : FileTree) (inside : Inside) (here : List Path) (path name : Path)
    (node : FileNode) : List Visit :=
  match node with
  | .file bytes => if isHidden name then [] else [.file path bytes]
  | .directory entries =>
    if isHidden name then []
    else inOrder (visitsAmong tree ((name :: here, path) :: inside) (name :: here) path entries)
  | .link target =>
    match htarget : tree.lookupFrom here target with
    | .error cause => [.broken (.unreachable path cause)]
    | .ok (_, .file bytes) => if isHidden name then [] else [.file path bytes]
    | .ok (way, .directory entries) =>
      match hway : inside.lookup way with
      | some ancestor => [.broken (.loop path ancestor)]
      | none =>
        if isHidden name then []
        else
          have := outside_cons_lt htarget hway path
          inOrder (visitsAmong tree ((way, path) :: inside) way path entries)
    | .ok (_, .link _) => [.broken (.unreachable path .tooManyLinks)]
termination_by (tree.outside inside, 1 + sizeOf node)
decreasing_by
  · have := tree.outside_cons_le inside (name :: here, path)
    rcases Nat.lt_or_eq_of_le this with h | h
    · exact Prod.Lex.left _ _ h
    · rw [h]; apply Prod.Lex.right; simp; omega
  · exact Prod.Lex.left _ _ this

def visitsAmong (tree : FileTree) (inside : Inside) (here : List Path) (path : Path)
    (entries : List (Path × FileNode)) : List (Path × List Visit) :=
  match entries with
  | [] => []
  | (name, node) :: rest =>
    (name, visitsAt tree inside here (entryPath path name) name node) ::
      visitsAmong tree inside here path rest
termination_by (tree.outside inside, sizeOf entries)
decreasing_by all_goals apply Prod.Lex.right; simp; try omega

end

def walk? (tree : FileTree) (path : Path) : Option (List Visit) :=
  match tree.lookup path with
  | .ok (way, .directory entries) =>
    some (inOrder (visitsAmong tree [(way, path)] way path entries))
  | _ => none

end Grok.FileTree
