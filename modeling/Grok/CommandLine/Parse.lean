import Grok.CommandLine.Basic

namespace Grok.CommandLine

inductive Stop where
  | usage
  | help
  | version
deriving DecidableEq, Repr

inductive ValueName where
  | patternsDir
  | dialect
  | maxDepth

inductive FlagName where
  | noBuiltin
  | verbose
  | help
  | version

def valueNames : List (Text × ValueName) :=
  [("patterns-dir", .patternsDir), ("engine", .dialect), ("max-depth", .maxDepth)]

def flagNames : List (Text × FlagName) :=
  [("no-embedded", .noBuiltin), ("verbose", .verbose), ("help", .help), ("version", .version)]

def shortNames : List (Char × FlagName) := [('v', .verbose), ('h', .help), ('V', .version)]

def dialectNames : List (Text × Regex.Dialect) := [("fancy", .backtracking), ("std", .linear)]

def commandNames : List Text := ["compile", "verify", "match"]

def natural? (t : Text) : Option Nat :=
  let digits := if t.head? = some '+' then t.drop 1 else t
  let n := digits.foldl (fun n c => n * 10 + (c.toNat - 48)) 0
  if digits.isEmpty || !digits.all Char.isDigit || 18446744073709551616 ≤ n then none else some n

def setValue (o : Options) (value : Text) : ValueName → Option Options
  | .patternsDir =>
    if o.patternsDir.isSome || value.isEmpty then none
    else some { o with patternsDir := some value }
  | .dialect =>
    if o.dialect.isSome then none
    else (dialectNames.lookup value).map fun d => { o with dialect := some d }
  | .maxDepth =>
    if o.maxDepth.isSome then none
    else (natural? value).map fun n => { o with maxDepth := some n }

def setFlag (o : Options) (inCommand : Bool) : FlagName → Except Stop Options
  | .noBuiltin => if o.noBuiltin then .error .usage else .ok { o with noBuiltin := true }
  | .verbose => if o.verbose then .error .usage else .ok { o with verbose := true }
  | .help => .error .help
  | .version => .error (if inCommand then .usage else .version)

def setShort (o : Options) (inCommand : Bool) : Text → Except Stop Options
  | [] => .ok o
  | c :: rest =>
    match shortNames.lookup c with
    | none => .error .usage
    | some flag => (setFlag o inCommand flag).bind fun o => setShort o inCommand rest

inductive Form where
  | separator
  | long (name : Text) (value : Option Text)
  | short (names : Text)
  | plain
deriving DecidableEq

def Form.ofText : Text → Form
  | ['-', '-'] => .separator
  | '-' :: '-' :: t =>
    match t.dropWhile (· ≠ '=') with
    | [] => .long t none
    | _ :: value => .long (t.takeWhile (· ≠ '=')) (some value)
  | ['-'] => .plain
  | '-' :: names => .short names
  | _ => .plain

structure Side where
  options : Options := {}
  plain : List Text := []

/-- Reads the arguments on one side of the command. Before it, the first plain argument is the
command; the result has it with the arguments after it. -/
def readSide (inCommand : Bool) (side : Side) : List Text → Except Stop (Side × List Text)
  | [] => .ok (side, [])
  | arg :: rest =>
    match Form.ofText arg with
    | .separator =>
      if inCommand then .ok ({ side with plain := side.plain ++ rest }, []) else .error .usage
    | .plain =>
      if inCommand then readSide inCommand { side with plain := side.plain ++ [arg] } rest
      else .ok (side, arg :: rest)
    | .short names =>
      match setShort side.options inCommand names with
      | .error stop => .error stop
      | .ok o => readSide inCommand { side with options := o } rest
    | .long name given =>
      match flagNames.lookup name, valueNames.lookup name, given with
      | some flag, _, none =>
        match setFlag side.options inCommand flag with
        | .error stop => .error stop
        | .ok o => readSide inCommand { side with options := o } rest
      | none, some option, some value =>
        match setValue side.options value option with
        | none => .error .usage
        | some o => readSide inCommand { side with options := o } rest
      | none, some option, none =>
        match rest with
        | [] => .error .usage
        | value :: rest =>
          if Form.ofText value ≠ .plain then .error .usage
          else
            match setValue side.options value option with
            | none => .error .usage
            | some o => readSide inCommand { side with options := o } rest
      | _, _, _ => .error .usage

def command? (name : Text) (args : List Text) : Option Command :=
  if name = "compile" then
    match args with
    | [expression] => some (.compile expression)
    | _ => none
  else if name = "verify" then
    match args with
    | [path] => if path.isEmpty then none else some (.verify path)
    | _ => none
  else if name = "match" then
    match args with
    | [expression, line] => some (.capture expression line)
    | _ => none
  else none

def parse (args : List Text) : Except Stop Invocation := do
  let (before, rest) ← readSide false {} args
  match rest with
  | [] => throw .usage
  | name :: rest =>
    if name = "help" then throw .help
    if name ∉ commandNames then throw .usage
    let (after, _) ← readSide true {} rest
    match command? name after.plain with
    | none => throw .usage
    | some command => return ⟨before.options.andThen after.options, command⟩

end Grok.CommandLine
