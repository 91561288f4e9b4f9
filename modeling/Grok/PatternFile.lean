import Grok.Placeholder
import Grok.Report
import Grok.Text.Blank
import Grok.Text.Line

/-!
Pattern files define one pattern a line: its name, one or more blanks, and its definition up to the
end of the line. Blanks at the ends of a line do not count. Blank lines and lines that start with a
number sign are skipped.
-/

namespace Grok.PatternFile

inductive Line where
  | skipped
  | definition (name definition : Text)
  | malformed (problem : LineProblem)
deriving DecidableEq, Repr

def Line.ofText (raw : Text) : Line :=
  let line := raw.trim
  if line = [] || line.head? = some '#' then .skipped
  else
    let name := line.takeWhile (!isBlank ·)
    let definition := (line.dropWhile (!isBlank ·)).dropWhile isBlank
    if definition = [] then .malformed (.missingDefinition line)
    else if isPatternName name then .definition name definition
    else .malformed (.illegalName name)

def readLines (origin : Text) (d : Dictionary) (number : Nat) : List Text → Report Dictionary
  | [] => pure d
  | raw :: rest =>
    match Line.ofText raw with
    | .skipped => readLines origin d (number + 1) rest
    | .malformed problem => .fail (.patternLine origin number problem)
    | .definition name definition =>
      let following := readLines origin (d.insert name definition) (number + 1) rest
      if d.contains name then
        (Report.tell (.lineRedefined origin number name)).andThen fun _ => following
      else following

def read (text origin : Text) : Report Dictionary := readLines origin ∅ 1 text.lines

def write (d : Dictionary) : Text :=
  d.entries.flatMap fun (name, definition) => name ++ ' ' :: definition ++ ['\n']

end Grok.PatternFile
