import Grok.CommandLine.Run

/-!
The program: reads the files that its arguments lead to, runs the command line on them, and writes
what it says. Links stay links in the tree, so that the walk finds out itself which of them loop.
-/

namespace Grok.Program

def maxPlaces : Nat := 1000000

def wayTo (place : Text) : List Path := (FileTree.steps (Text.encoded place)).filter (· ≠ [])

def withDirectory (root : FileNode) (way : List Path) : FileNode :=
  match root.descend? way with
  | some (.directory _) => root
  | _ => .insertAt (.directory []) way root

def realPath? (entry : IO.FS.DirEntry) : IO (Option Text) := do
  try
    return some (← IO.FS.realPath entry.path).toString.toList
  catch _ => return none

def isLink (entry : IO.FS.DirEntry) : IO Bool := do
  try
    return (← entry.path.symlinkMetadata).type matches .symlink
  catch _ => return false

/-- Puts an entry into a tree, if it is a link: one to the real path of its target, or to nowhere. -/
def withLink (root : FileNode) (parent : Text) (entry : IO.FS.DirEntry) : IO FileNode := do
  if ← isLink entry then
    let target := (← realPath? entry).getD []
    let way := wayTo parent ++ [Text.encoded entry.fileName.toList]
    return .insertAt (.link (Text.encoded target)) way root
  else return root

def readPlaces : Nat → FileNode → List Text → List Text → IO FileNode
  | 0, root, _, _ => return root
  | _ + 1, root, _, [] => return root
  | n + 1, root, seen, place :: rest => do
    if place ∈ seen then readPlaces n root seen rest
    else
      let here : IO.FS.DirEntry := ⟨"/", String.ofList place⟩
      if ← here.path.isDir then
        let mut root := withDirectory root (wayTo place)
        let mut found : List Text := []
        for child in ← here.path.readDir do
          root ← withLink root place child
          found := (← realPath? child).toList ++ found
        readPlaces n root (place :: seen) (found ++ rest)
      else
        let bytes ← IO.FS.readBinFile here.path
        readPlaces n (.insertAt (.file bytes) (wayTo place) root) (place :: seen) rest

/-- Goes through the steps of a path from a real path, and puts the links on the way into a tree. What
the path leads to is read. -/
def readPath (root : FileNode) (here : Text) : List Text → IO FileNode
  | [] => readPlaces maxPlaces root [] [here]
  | step :: rest => do
    if step = [] then readPath root here rest
    else
      let entry : IO.FS.DirEntry := ⟨String.ofList here, String.ofList step⟩
      let root ← withLink root here entry
      match ← realPath? entry with
      | some next => readPath root next rest
      | none =>
        let place : IO.FS.DirEntry := ⟨"/", String.ofList here⟩
        if ← place.path.isDir then return withDirectory root (wayTo here)
        else readPlaces maxPlaces root [] [here]

def paths (i : CommandLine.Invocation) : List Text :=
  i.options.patternsDir.toList ++
    match i.command with
    | .verify path => [path]
    | _ => []

def readTree (args : List Text) : IO FileTree := do
  let current := (← IO.currentDir).toString.toList
  let mut root := withDirectory (.directory []) (wayTo current)
  if let .ok i := CommandLine.parse args then
    for path in paths i do
      let start := if path.head? = some '/' then ['/'] else current
      let steps := (FileTree.steps path.encoded).map Path.display
      root ← readPath root start steps
  return ⟨root, (wayTo current).reverse⟩

def libraries : CommandLine.Libraries where
  engine := Regex.Dialect.terse
  refusal := fun _ => []

end Grok.Program

def main (args : List String) : IO UInt32 := do
  let args := args.map String.toList
  let tree ← Grok.Program.readTree args
  let exit := Grok.CommandLine.exit Grok.Program.libraries args tree
  (← IO.getStdout).putStr (String.ofList exit.output)
  (← IO.getStderr).putStr (String.ofList exit.errors)
  return exit.code.toUInt32
