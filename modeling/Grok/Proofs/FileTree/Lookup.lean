import Grok.Proofs.FileTree.Growth

namespace Grok.FileTree

open FileNode

inductive Move where
  | fail (cause : ReadError)
  | reach (way : List Path)
  | follow (target : Path)

def isName (step : Path) : Bool := step ≠ [] && step ≠ [Path.dot] && step ≠ [Path.dot, Path.dot]

def move (tree : FileTree) (here : List Path) (step : Path) : Move :=
  match tree.node? here with
  | none => .fail .notFound
  | some (.directory _) =>
    if isName step then
      match tree.node? (step :: here) with
      | none => .fail .notFound
      | some (.link target) => .follow target
      | some _ => .reach (step :: here)
    else .reach (if step = [Path.dot, Path.dot] then here.tail else here)
  | some _ => .fail .notADirectory

section

variable {tree : FileTree} {name : Path} {place here : List Path} {new : FileNode}
  {siblings : List (Path × FileNode)} (htree : tree.root.WellFormed)
  (hplace : tree.node? place = some (.directory siblings)) (hfresh : name ∉ siblings.map (·.1))
include hplace hfresh

include htree

end

end Grok.FileTree
