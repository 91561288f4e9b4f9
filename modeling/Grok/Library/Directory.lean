import Grok.FileTree.Walk
import Grok.PatternFile

namespace Grok.Library

open FileTree

def readVisits (directory : Path) (d : Dictionary) : List Visit → Report Dictionary
  | [] => pure d
  | .broken failure :: _ => .fail (.load (.brokenEntry directory.display failure))
  | .file path bytes :: rest =>
    match decode bytes with
    | .error e => .fail (.load (.unreadable path.display e))
    | .ok text =>
      (PatternFile.read text path.display).andThen fun own =>
        (Report.tellAll ((d.common own).map fun name => .fileRedefined name path.display)).andThen
          fun _ => readVisits directory (d.merge own) rest

def ofDirectory (tree : FileTree) (path : Path) : Report Dictionary :=
  match tree.walk? path with
  | none => .fail (.load (.noDirectory path.display))
  | some visits =>
    (readVisits path ∅ visits).andThen fun d =>
      (Report.tell (.directoryLoaded path.display visits.length d.size)).andThen fun _ => pure d

def ofFile (tree : FileTree) (path : Path) : Report Dictionary :=
  match tree.read path with
  | .error e => .fail (.load (.unreadable path.display e))
  | .ok text => PatternFile.read text path.display

end Grok.Library
