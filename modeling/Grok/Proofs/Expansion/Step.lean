import Grok.Expansion
import Grok.Proofs.Placeholder.Grammar

/-!
What an expansion does at one placeholder. The checks are made in a fixed order, and the first one
that fails gives the error; a placeholder that passes them is entered, which puts its pattern on
the path. Statements about whole expansions need only the two inversions of that case and the
induction at the end.
-/

namespace Grok

structure Occurrence where
  path : List Text
  text : Text
  body : Text

namespace Occurrence

def place (o : Occurrence) : Place := ⟨.ofPath o.path o.text, Placeholder.written o.body⟩

/-- The error that a placeholder is at fault for. Each case rules out the cases before it. -/
inductive Fault (d : Dictionary) (limit : Nat) (o : Occurrence) : ExpansionError → Prop
  | invalid (hbody : ∀ p : Placeholder, p.Valid → p.body ≠ o.body) :
      Fault d limit o (.invalidPlaceholder o.place)
  | undefined {p : Placeholder} (hvalid : p.Valid) (hbody : p.body = o.body)
      (hname : p.name ∉ d.names) : Fault d limit o (.undefinedPattern p.name o.place)
  | cyclic {p : Placeholder} (hvalid : p.Valid) (hbody : p.body = o.body)
      (hname : p.name ∈ d.names) (hpath : p.name ∈ o.path) :
      Fault d limit o (.cyclicPattern (cycleThrough p.name o.path))
  | tooDeep {p : Placeholder} (hvalid : p.Valid) (hbody : p.body = o.body)
      (hname : p.name ∈ d.names) (hpath : p.name ∉ o.path) (hlimit : limit ≤ o.path.length) :
      Fault d limit o (.tooDeep limit o.place)

structure Enters (d : Dictionary) (limit : Nat) (o : Occurrence) (p : Placeholder)
    (definition : Text) : Prop where
  valid : p.Valid
  body : p.body = o.body
  defined : d.get? p.name = some definition
  fresh : p.name ∉ o.path
  shallow : o.path.length < limit

end Occurrence

namespace Dictionary

variable {d : Dictionary} {limit : Nat} {path : List Text} {text : Text}

def check (d : Dictionary) (limit : Nat) (o : Occurrence) :
    Except ExpansionError (Placeholder × Text) :=
  match Placeholder.parse? o.body with
  | none => .error (.invalidPlaceholder o.place)
  | some p =>
    match d.get? p.name with
    | none => .error (.undefinedPattern p.name o.place)
    | some definition =>
      if p.name ∈ o.path then .error (.cyclicPattern (cycleThrough p.name o.path))
      else if limit ≤ o.path.length then .error (.tooDeep limit o.place)
      else .ok (p, definition)

theorem mem_names_iff {name : Text} :
    name ∈ d.names ↔ ∃ definition, d.get? name = some definition := by
  rw [← Option.ne_none_iff_exists', ne_eq, get?_eq_none_iff, not_not]

theorem check_eq_ok_iff {o : Occurrence} {p : Placeholder} {definition : Text} :
    d.check limit o = .ok (p, definition) ↔ o.Enters d limit p definition := by
  constructor
  · intro h
    unfold check at h
    split at h
    · cases h
    next q hq =>
      obtain ⟨hvalid, hbody⟩ := Placeholder.parse?_eq_some_iff.mp hq
      split at h
      · cases h
      next hdef =>
        split_ifs at h with hpath hlimit
        cases h
        exact ⟨hvalid, hbody, hdef, hpath, by omega⟩
  · intro h
    have hparse : Placeholder.parse? o.body = some p :=
      Placeholder.parse?_eq_some_iff.mpr ⟨h.valid, h.body⟩
    have hshallow := h.shallow
    simp only [check, hparse, h.defined, h.fresh, if_false]
    rw [if_neg (by omega)]

theorem check_eq_error_iff {o : Occurrence} {e : ExpansionError} :
    d.check limit o = .error e ↔ o.Fault d limit e := by
  constructor
  · intro h
    unfold check at h
    split at h
    next hparse =>
      cases h
      exact .invalid (Placeholder.parse?_eq_none_iff.mp hparse)
    next q hq =>
      obtain ⟨hvalid, hbody⟩ := Placeholder.parse?_eq_some_iff.mp hq
      split at h
      next hdef =>
        cases h
        exact .undefined hvalid hbody (get?_eq_none_iff.mp hdef)
      next hdef =>
        have hname := mem_names_of_get? hdef
        split_ifs at h with hpath hlimit
        · cases h
          exact .cyclic hvalid hbody hname hpath
        · cases h
          exact .tooDeep hvalid hbody hname hpath hlimit
  · intro h
    cases h with
    | invalid hbody => simp only [check, Placeholder.parse?_eq_none_iff.mpr hbody]
    | undefined hvalid hbody hname =>
      have hparse := Placeholder.parse?_eq_some_iff.mpr ⟨hvalid, hbody⟩
      simp only [check, hparse, get?_eq_none_iff.mpr hname]
    | cyclic hvalid hbody hname hpath =>
      have hparse := Placeholder.parse?_eq_some_iff.mpr ⟨hvalid, hbody⟩
      obtain ⟨definition, hdef⟩ := mem_names_iff.mp hname
      simp only [check, hparse, hdef, hpath, if_true]
    | tooDeep hvalid hbody hname hpath hlimit =>
      have hparse := Placeholder.parse?_eq_some_iff.mpr ⟨hvalid, hbody⟩
      obtain ⟨definition, hdef⟩ := mem_names_iff.mp hname
      simp only [check, hparse, hdef, hpath, hlimit, if_true, if_false]

theorem not_fault_of_enters {o : Occurrence} {p : Placeholder} {definition : Text}
    {e : ExpansionError} (h : o.Enters d limit p definition) : ¬o.Fault d limit e := by
  intro hfault
  have hc := check_eq_error_iff.mpr hfault
  rw [check_eq_ok_iff.mpr h] at hc
  cases hc

theorem fault_unique {o : Occurrence} {e e' : ExpansionError} (h : o.Fault d limit e)
    (h' : o.Fault d limit e') : e = e' := by
  have hc := check_eq_error_iff.mpr h
  rw [check_eq_error_iff.mpr h'] at hc
  exact (Except.error.inj hc).symm

theorem expandHoles_nil : d.expandHoles limit path text [] = .ok [] := by
  rw [expandHoles]

theorem expandHoles_cons (body following : Text) (rest : List (Text × Text)) :
    d.expandHoles limit path text ((body, following) :: rest) =
      match d.check limit ⟨path, text, body⟩ with
      | .error e => .error e
      | .ok (p, definition) =>
        match d.expandWithin limit (p.name :: path) definition with
        | .error e => .error e
        | .ok inner =>
          match d.expandHoles limit path text rest with
          | .error e => .error e
          | .ok remaining => .ok (p.wrap inner ++ following ++ remaining) := by
  rw [expandHoles]
  cases hparse : Placeholder.parse? body with
  | none => simp only [check, hparse]; rfl
  | some p =>
    simp only [check, hparse]
    split
    next hdef => simp only [hdef]; rfl
    next definition hdef =>
      simp only [hdef]
      by_cases hpath : p.name ∈ path
      · simp only [hpath, dif_pos, if_true]
      by_cases hlimit : limit ≤ path.length
      · simp only [hpath, hlimit, dif_neg, if_true, if_false, not_false_eq_true]; rfl
      simp only [hpath, hlimit, dif_neg, if_false, not_false_eq_true, expandWithin]
      cases d.expandHoles limit (p.name :: path) definition (Template.ofText definition).holes with
      | error e => rfl
      | ok expanded => rfl

theorem expandHoles_of_fault {body following : Text} {rest : List (Text × Text)}
    {e : ExpansionError} (h : Occurrence.Fault d limit ⟨path, text, body⟩ e) :
    d.expandHoles limit path text ((body, following) :: rest) = .error e := by
  rw [expandHoles_cons, check_eq_error_iff.mpr h]

theorem expandWithin_eq : d.expandWithin limit path text =
    (d.expandHoles limit path text (Template.ofText text).holes).map
      ((Template.ofText text).lead ++ ·) := rfl

theorem expandWithin_eq_ok_iff {out : Text} :
    d.expandWithin limit path text = .ok out ↔
      ∃ filled, d.expandHoles limit path text (Template.ofText text).holes = .ok filled ∧
        (Template.ofText text).lead ++ filled = out := by
  rw [expandWithin_eq]
  cases d.expandHoles limit path text (Template.ofText text).holes with
  | error e => simp [Except.map]
  | ok filled => simp [Except.map]

theorem expandWithin_eq_error_iff {e : ExpansionError} :
    d.expandWithin limit path text = .error e ↔
      d.expandHoles limit path text (Template.ofText text).holes = .error e := by
  rw [expandWithin_eq]
  cases d.expandHoles limit path text (Template.ofText text).holes with
  | error e => simp [Except.map]
  | ok filled => simp [Except.map]

theorem expandHoles_of_enters {body following : Text} {rest : List (Text × Text)}
    {p : Placeholder} {definition : Text}
    (h : Occurrence.Enters d limit ⟨path, text, body⟩ p definition) :
    d.expandHoles limit path text ((body, following) :: rest) =
      match d.expandWithin limit (p.name :: path) definition with
      | .error e => .error e
      | .ok inner =>
        match d.expandHoles limit path text rest with
        | .error e => .error e
        | .ok remaining => .ok (p.wrap inner ++ following ++ remaining) := by
  rw [expandHoles_cons, check_eq_ok_iff.mpr h]

theorem expandHoles_enters_ok_iff {body following definition out : Text}
    {rest : List (Text × Text)} {p : Placeholder}
    (h : Occurrence.Enters d limit ⟨path, text, body⟩ p definition) :
    d.expandHoles limit path text ((body, following) :: rest) = .ok out ↔
      ∃ filled remaining,
        d.expandHoles limit (p.name :: path) definition (Template.ofText definition).holes =
          .ok filled ∧
        d.expandHoles limit path text rest = .ok remaining ∧
        p.wrap ((Template.ofText definition).lead ++ filled) ++ following ++ remaining = out := by
  rw [expandHoles_of_enters h, expandWithin_eq]
  cases d.expandHoles limit (p.name :: path) definition (Template.ofText definition).holes with
  | error e => simp [Except.map]
  | ok filled =>
    cases d.expandHoles limit path text rest with
    | error e => simp [Except.map]
    | ok remaining => simp [Except.map]

theorem expandHoles_enters_error_iff {body following definition : Text}
    {rest : List (Text × Text)} {p : Placeholder} {e : ExpansionError}
    (h : Occurrence.Enters d limit ⟨path, text, body⟩ p definition) :
    d.expandHoles limit path text ((body, following) :: rest) = .error e ↔
      d.expandHoles limit (p.name :: path) definition (Template.ofText definition).holes =
          .error e ∨
        ∃ filled,
          d.expandHoles limit (p.name :: path) definition (Template.ofText definition).holes =
            .ok filled ∧
          d.expandHoles limit path text rest = .error e := by
  rw [expandHoles_of_enters h, expandWithin_eq]
  cases d.expandHoles limit (p.name :: path) definition (Template.ofText definition).holes with
  | error e => simp [Except.map]
  | ok filled =>
    cases d.expandHoles limit path text rest with
    | error e => simp [Except.map]
    | ok remaining => simp [Except.map]

/-- Induction along an expansion. A placeholder that is entered puts its pattern on the path, which
leaves fewer patterns of the dictionary off the path. -/
theorem expandHoles_induction (d : Dictionary) (limit : Nat)
    {motive : List Text → Text → List (Text × Text) → Prop}
    (nil : ∀ path text, motive path text [])
    (fault : ∀ path text body following rest e,
      Occurrence.Fault d limit ⟨path, text, body⟩ e → motive path text ((body, following) :: rest))
    (enter : ∀ path text body following rest p definition,
      Occurrence.Enters d limit ⟨path, text, body⟩ p definition →
      motive (p.name :: path) definition (Template.ofText definition).holes →
      motive path text rest → motive path text ((body, following) :: rest))
    (path : List Text) (text : Text) (holes : List (Text × Text)) : motive path text holes := by
  match holes with
  | [] => exact nil path text
  | (body, following) :: rest =>
    cases hc : d.check limit ⟨path, text, body⟩ with
    | error e => exact fault path text body following rest e (check_eq_error_iff.mp hc)
    | ok entered =>
      obtain ⟨p, definition⟩ := entered
      have h := check_eq_ok_iff.mp hc
      have hlt := length_unvisited_lt (mem_names_of_get? h.defined) h.fresh
      apply enter path text body following rest p definition h
      · exact expandHoles_induction d limit nil fault enter _ _ _
      · exact expandHoles_induction d limit nil fault enter _ _ _
termination_by ((d.unvisited path).length, holes.length)

end Dictionary

end Grok
