import Grok.Error

namespace Grok

inductive FileNode where
  | file (bytes : ByteArray)
  | directory (entries : List (Path × FileNode))
  | link (target : Path)
deriving Inhabited

namespace FileNode

def child? (name : Path) : FileNode → Option FileNode
  | .directory entries => entries.lookup name
  | _ => none

def descend? (node : FileNode) : List Path → Option FileNode
  | [] => some node
  | name :: rest => (node.child? name).bind (·.descend? rest)

mutual

def directories (way : List Path) : FileNode → List (List Path)
  | .directory entries => way :: directoriesAmong way entries
  | _ => []

def directoriesAmong (way : List Path) : List (Path × FileNode) → List (List Path)
  | [] => []
  | (name, node) :: rest => node.directories (name :: way) ++ directoriesAmong way rest

end

def insertAt (node : FileNode) : List Path → FileNode → FileNode
  | [], _ => node
  | name :: rest, .directory entries =>
    let child := (entries.lookup name).getD (.directory [])
    .directory ((name, insertAt node rest child) :: entries.filter (·.1 ≠ name))
  | name :: rest, _ => .directory [(name, insertAt node rest (.directory []))]

theorem mem_directoriesAmong {way place : List Path} {entries : List (Path × FileNode)}
    {name : Path} {node : FileNode} (hlookup : entries.lookup name = some node)
    (hplace : place ∈ node.directories (name :: way)) : place ∈ directoriesAmong way entries := by
  induction entries with
  | nil => cases hlookup
  | cons entry rest ih =>
    obtain ⟨own, child⟩ := entry
    rw [directoriesAmong, List.mem_append]
    rw [List.lookup_cons] at hlookup
    split at hlookup
    next hown =>
      obtain rfl := eq_of_beq hown
      cases hlookup
      exact .inl hplace
    next => exact .inr (ih hlookup)

theorem mem_directories_of_descend? {node : FileNode} {names : List Path}
    {entries : List (Path × FileNode)} (h : node.descend? names = some (.directory entries))
    (way : List Path) : names.reverse ++ way ∈ node.directories way := by
  induction names generalizing node way with
  | nil =>
    cases h
    rw [directories]
    exact List.mem_cons_self
  | cons name rest ih =>
    rw [descend?] at h
    obtain ⟨child, hchild, hrest⟩ := Option.bind_eq_some_iff.mp h
    cases node with
    | file bytes => cases hchild
    | link target => cases hchild
    | directory entries =>
      rw [directories, List.reverse_cons, List.append_assoc]
      exact List.mem_cons_of_mem _ (mem_directoriesAmong hchild (ih hrest _))

end FileNode

/-- A tree of files, and the way to its working directory, from the innermost name to the outermost
one. -/
structure FileTree where
  root : FileNode
  workingDirectory : List Path

namespace FileTree

def node? (tree : FileTree) (way : List Path) : Option FileNode := tree.root.descend? way.reverse

def steps : Path → List Path
  | [] => [[]]
  | byte :: rest =>
    if byte = Path.slash then [] :: steps rest
    else
      match steps rest with
      | [] => [[byte]]
      | step :: more => (byte :: step) :: more

def start (here : List Path) (path : Path) : List Path :=
  if path.head? = some Path.slash then [] else here

/-- Goes through the steps of a path from a place, and follows so many links at most. Gives the way
to the node at the end, which is no link, and the node. -/
def go (tree : FileTree) (links : Nat) (here : List Path) :
    List Path → Except ReadError (List Path × FileNode)
  | [] =>
    match tree.node? here with
    | none => .error .notFound
    | some node => .ok (here, node)
  | step :: rest =>
    match tree.node? here with
    | none => .error .notFound
    | some (.directory entries) =>
      if step = [] || step = [Path.dot] then go tree links here rest
      else if step = [Path.dot, Path.dot] then go tree links here.tail rest
      else
        match entries.lookup step with
        | none => .error .notFound
        | some (.link target) =>
          match links with
          | 0 => .error .tooManyLinks
          | links + 1 => go tree links (start here target) (steps target ++ rest)
        | some _ => go tree links (step :: here) rest
    | some _ => .error .notADirectory
termination_by todo => (links, todo.length)

theorem node?_of_go {tree : FileTree} {links : Nat} {here todo way : List Path} {node : FileNode}
    (h : tree.go links here todo = .ok (way, node)) : tree.node? way = some node := by
  fun_induction go tree links here todo with
  | case1 | case3 | case6 | case7 | case10 => cases h
  | case2 links here node' hnode =>
    cases h
    exact hnode
  | case4 | case5 | case8 | case9 => simp_all

def maxLinks : Nat := 40

def lookupFrom (tree : FileTree) (here : List Path) (path : Path) :
    Except ReadError (List Path × FileNode) :=
  if path = [] then .error .notFound else go tree maxLinks (start here path) (steps path)

theorem node?_of_lookupFrom {tree : FileTree} {here way : List Path} {path : Path} {node : FileNode}
    (h : tree.lookupFrom here path = .ok (way, node)) : tree.node? way = some node := by
  unfold lookupFrom at h
  split at h
  · cases h
  · exact node?_of_go h

def lookup (tree : FileTree) (path : Path) : Except ReadError (List Path × FileNode) :=
  tree.lookupFrom tree.workingDirectory path

def decode (bytes : ByteArray) : Except ReadError Text :=
  match Text.decoded? bytes with
  | none => .error .notText
  | some t => .ok t

def read (tree : FileTree) (path : Path) : Except ReadError Text :=
  match tree.lookup path with
  | .error e => .error e
  | .ok (_, .file bytes) => decode bytes
  | .ok _ => .error .isADirectory

end FileTree

end Grok
