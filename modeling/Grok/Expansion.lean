import Grok.Dictionary.Basic
import Grok.Template

/-!
Expansion replaces each placeholder of an expression by a group around the expanded definition of
its pattern. The path of an expansion is the list of the patterns whose definitions enclose the
text at hand, the innermost one first. A pattern that is on the path cannot be expanded again, so
expansion ends for every dictionary; the limit on the length of the path only cuts it short.
-/

namespace Grok

inductive Origin where
  | expression (text : Text)
  | definition (name text : Text)
deriving DecidableEq, Repr

structure Place where
  origin : Origin
  token : Text
deriving DecidableEq, Repr

inductive ExpansionError where
  | invalidPlaceholder (place : Place)
  | undefinedPattern (name : Text) (place : Place)
  /-- A pattern is reached again from its own definition, by way of the names in between. -/
  | cyclicPattern (participants : List Text)
  | tooDeep (limit : Nat) (place : Place)
deriving DecidableEq, Repr

def Origin.ofPath (path : List Text) (text : Text) : Origin :=
  match path with
  | [] => .expression text
  | name :: _ => .definition name text

def cycleThrough (name : Text) (path : List Text) : List Text :=
  name :: (path.takeWhile (· ≠ name)).reverse ++ [name]

namespace Dictionary

def unvisited (d : Dictionary) (path : List Text) : List Text := d.names.filter (· ∉ path)

theorem mem_names_of_get? {d : Dictionary} {name definition : Text}
    (h : d.get? name = some definition) : name ∈ d.names := by
  simp only [get?, Option.map_eq_some_iff] at h
  obtain ⟨e, he, -⟩ := h
  have hn : e.1 = name := by simpa using List.find?_some he
  exact List.mem_map.2 ⟨e, List.mem_of_find?_eq_some he, hn⟩

theorem unvisited_cons (d : Dictionary) (name : Text) (path : List Text) :
    d.unvisited (name :: path) = (d.unvisited path).filter (· ≠ name) := by
  simp only [unvisited, List.filter_filter]
  congr 1
  funext n
  by_cases h : n = name <;> simp [h]

theorem length_unvisited_lt {d : Dictionary} {path : List Text} {name : Text}
    (hd : name ∈ d.names) (hp : name ∉ path) :
    (d.unvisited (name :: path)).length < (d.unvisited path).length := by
  rw [unvisited_cons, List.length_filter_lt_length_iff_exists]
  exact ⟨name, by simp [unvisited, hd, hp], by simp⟩

/-- Expands the placeholders of a text that the path encloses. The text is needed again to tell
where an offending placeholder stands. -/
def expandHoles (d : Dictionary) (limit : Nat) (path : List Text) (text : Text) :
    List (Text × Text) → Except ExpansionError Text
  | [] => .ok []
  | (body, following) :: rest =>
    let place : Place := ⟨.ofPath path text, Placeholder.written body⟩
    match Placeholder.parse? body with
    | none => .error (.invalidPlaceholder place)
    | some p =>
      match hd : d.get? p.name with
      | none => .error (.undefinedPattern p.name place)
      | some definition =>
        if hp : p.name ∈ path then .error (.cyclicPattern (cycleThrough p.name path))
        else if limit ≤ path.length then .error (.tooDeep limit place)
        else
          have := length_unvisited_lt (mem_names_of_get? hd) hp
          let inner := Template.ofText definition
          match expandHoles d limit (p.name :: path) definition inner.holes with
          | .error e => .error e
          | .ok expanded =>
            match expandHoles d limit path text rest with
            | .error e => .error e
            | .ok remaining => .ok (p.wrap (inner.lead ++ expanded) ++ following ++ remaining)
termination_by holes => ((d.unvisited path).length, holes.length)

def expandWithin (d : Dictionary) (limit : Nat) (path : List Text) (text : Text) :
    Except ExpansionError Text :=
  let template := Template.ofText text
  (d.expandHoles limit path text template.holes).map (template.lead ++ ·)

def expand (d : Dictionary) (limit : Nat) (expression : Text) : Except ExpansionError Text :=
  d.expandWithin limit [] expression

end Dictionary

end Grok
