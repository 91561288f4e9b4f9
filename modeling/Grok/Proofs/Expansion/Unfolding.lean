import Grok.Compiler
import Grok.Proofs.Expansion.Step

/-!
The unfolding of an expression is the tree of its placeholders, where those of a definition stand
below the placeholders that name it; it may be infinite. A placeholder has an address in it: the
positions, counted in each text from the left, that lead to it from the expression. Addresses in
their lexicographic order are the places of the tree in depth-first order from left to right, each
place before those below it. The error of an expansion is the fault at the least address that has
one; whatever stands below a fault comes after it.
-/

namespace Grok.Dictionary

def occurrenceIn? (d : Dictionary) (path : List Text) (text : Text) (holes : List (Text × Text)) :
    List Nat → Option Occurrence
  | [] => none
  | [i] => holes[i]?.map fun hole => ⟨path, text, hole.1⟩
  | i :: j :: below =>
    holes[i]?.bind fun hole => (Placeholder.parse? hole.1).bind fun p =>
      (d.get? p.name).bind fun definition =>
        occurrenceIn? d (p.name :: path) definition (Template.ofText definition).holes (j :: below)

def occurrenceAt? (d : Dictionary) (expression : Text) (address : List Nat) : Option Occurrence :=
  d.occurrenceIn? [] expression (Template.ofText expression).holes address

def FaultIn (d : Dictionary) (limit : Nat) (path : List Text) (text : Text)
    (holes : List (Text × Text)) (address : List Nat) (e : ExpansionError) : Prop :=
  ∃ o, d.occurrenceIn? path text holes address = some o ∧ o.Fault d limit e

def FaultAt (d : Dictionary) (limit : Nat) (expression : Text) (address : List Nat)
    (e : ExpansionError) : Prop :=
  ∃ o, d.occurrenceAt? expression address = some o ∧ o.Fault d limit e

variable {d : Dictionary} {limit : Nat} {path : List Text} {text : Text}

theorem FaultIn.unique {holes : List (Text × Text)} {address : List Nat} {e e' : ExpansionError}
    (h : d.FaultIn limit path text holes address e)
    (h' : d.FaultIn limit path text holes address e') : e = e' := by
  obtain ⟨o, ho, hfault⟩ := h
  obtain ⟨o', ho', hfault'⟩ := h'
  have hoo : o = o' := Option.some.inj (ho.symm.trans ho')
  subst hoo
  exact fault_unique hfault hfault'

theorem FaultIn.ne_nil {holes : List (Text × Text)} {address : List Nat} {e : ExpansionError}
    (h : d.FaultIn limit path text holes address e) : address ≠ [] := by
  rintro rfl
  obtain ⟨o, ho, hfault⟩ := h
  cases ho

theorem not_faultIn_nil {address : List Nat} {e : ExpansionError} :
    ¬d.FaultIn limit path text [] address e := by
  rintro ⟨o, ho, hfault⟩
  match address with
  | [] => cases ho
  | [i] => cases ho
  | i :: j :: below => cases ho

def nextAddress : List Nat → List Nat
  | [] => []
  | i :: below => (i + 1) :: below

theorem nextAddress_mono {a b : List Nat} (ha : a ≠ []) (hab : a ≤ b) :
    nextAddress a ≤ nextAddress b := by
  rcases hab.lt_or_eq with hlt | rfl
  · cases hlt with
    | nil => exact absurd rfl ha
    | cons h => exact List.cons_le_cons _ (le_of_lt h)
    | rel h => exact le_of_lt (.rel (Nat.succ_lt_succ h))
  · exact le_refl _

theorem faultIn_cons_head {body following : Text} {rest : List (Text × Text)} {e : ExpansionError} :
    d.FaultIn limit path text ((body, following) :: rest) [0] e ↔
      Occurrence.Fault d limit ⟨path, text, body⟩ e := by
  constructor
  · rintro ⟨o, ho, hfault⟩
    cases ho
    exact hfault
  · intro h
    exact ⟨_, rfl, h⟩

theorem faultIn_cons_below {body following definition : Text} {rest : List (Text × Text)}
    {p : Placeholder} (h : Occurrence.Enters d limit ⟨path, text, body⟩ p definition) {j : Nat}
    {below : List Nat} {e : ExpansionError} :
    d.FaultIn limit path text ((body, following) :: rest) (0 :: j :: below) e ↔
      d.FaultIn limit (p.name :: path) definition (Template.ofText definition).holes (j :: below) e := by
  have hparse : Placeholder.parse? body = some p :=
    Placeholder.parse?_eq_some_iff.mpr ⟨h.valid, h.body⟩
  unfold FaultIn
  rw [occurrenceIn?]
  simp only [List.getElem?_cons_zero, Option.bind_some, hparse, h.defined]

theorem faultIn_cons_next {hole : Text × Text} {rest : List (Text × Text)} {i : Nat}
    {below : List Nat} {e : ExpansionError} :
    d.FaultIn limit path text (hole :: rest) ((i + 1) :: below) e ↔
      d.FaultIn limit path text rest (i :: below) e := by
  unfold FaultIn
  cases below with
  | nil => simp only [occurrenceIn?, List.getElem?_cons_succ]
  | cons j below => simp only [occurrenceIn?, List.getElem?_cons_succ]

theorem faultIn_cons_iff {body following definition : Text} {rest : List (Text × Text)}
    {p : Placeholder} (h : Occurrence.Enters d limit ⟨path, text, body⟩ p definition)
    {address : List Nat} {e : ExpansionError} :
    d.FaultIn limit path text ((body, following) :: rest) address e ↔
      (∃ below, address = 0 :: below ∧
        d.FaultIn limit (p.name :: path) definition (Template.ofText definition).holes below e) ∨
      ∃ next, address = nextAddress next ∧ d.FaultIn limit path text rest next e := by
  constructor
  · intro hf
    match address with
    | [] => exact absurd rfl hf.ne_nil
    | [0] => exact absurd (faultIn_cons_head.mp hf) (not_fault_of_enters h)
    | 0 :: j :: below => exact .inl ⟨_, rfl, (faultIn_cons_below h).mp hf⟩
    | (i + 1) :: below => exact .inr ⟨i :: below, rfl, faultIn_cons_next.mp hf⟩
  · rintro (⟨below, rfl, hf⟩ | ⟨next, rfl, hf⟩)
    · match below with
      | [] => exact absurd rfl hf.ne_nil
      | j :: below => exact (faultIn_cons_below h).mpr hf
    · match next with
      | [] => exact absurd rfl hf.ne_nil
      | i :: below => exact faultIn_cons_next.mpr hf

theorem not_faultIn_of_expandHoles {holes : List (Text × Text)} {out : Text}
    (h : d.expandHoles limit path text holes = .ok out) (address : List Nat) (e : ExpansionError) :
    ¬d.FaultIn limit path text holes address e := by
  induction path, text, holes using expandHoles_induction d limit generalizing out address with
  | nil path text => exact not_faultIn_nil
  | fault path text body following rest e' hfault =>
    rw [expandHoles_of_fault hfault] at h
    cases h
  | enter path text body following rest p definition henter ihinner ihrest =>
    obtain ⟨filled, remaining, hinner, hrest, -⟩ := (expandHoles_enters_ok_iff henter).mp h
    rw [faultIn_cons_iff henter]
    rintro (⟨below, -, hf⟩ | ⟨next, -, hf⟩)
    · exact ihinner hinner below hf
    · exact ihrest hrest next hf

def Faulty (d : Dictionary) (limit : Nat) (path : List Text) (text : Text)
    (holes : List (Text × Text)) : Set (List Nat) :=
  {address | ∃ e, d.FaultIn limit path text holes address e}

theorem isLeast_head {body following : Text} {rest : List (Text × Text)} {e : ExpansionError}
    (h : Occurrence.Fault d limit ⟨path, text, body⟩ e) :
    IsLeast (d.Faulty limit path text ((body, following) :: rest)) [0] := by
  refine ⟨⟨e, faultIn_cons_head.mpr h⟩, ?_⟩
  rintro address ⟨e', hf⟩
  match address with
  | [] => exact absurd rfl hf.ne_nil
  | [0] => exact le_refl _
  | 0 :: j :: below => exact List.cons_le_cons 0 (le_of_lt .nil)
  | (i + 1) :: below => exact le_of_lt (.rel (Nat.succ_pos i))

theorem isLeast_below {body following definition : Text} {rest : List (Text × Text)}
    {p : Placeholder} (h : Occurrence.Enters d limit ⟨path, text, body⟩ p definition)
    {below : List Nat}
    (hleast : IsLeast (d.Faulty limit (p.name :: path) definition
      (Template.ofText definition).holes) below) :
    IsLeast (d.Faulty limit path text ((body, following) :: rest)) (0 :: below) := by
  obtain ⟨⟨e, hf⟩, hle⟩ := hleast
  refine ⟨⟨e, (faultIn_cons_iff h).mpr (.inl ⟨below, rfl, hf⟩)⟩, ?_⟩
  rintro address ⟨e', hf'⟩
  rcases (faultIn_cons_iff h).mp hf' with ⟨below', rfl, hbelow⟩ | ⟨next, rfl, hnext⟩
  · exact List.cons_le_cons 0 (hle ⟨e', hbelow⟩)
  · match next with
    | [] => exact absurd rfl hnext.ne_nil
    | i :: more => exact le_of_lt (.rel (Nat.succ_pos i))

theorem isLeast_next {body following definition : Text} {rest : List (Text × Text)}
    {p : Placeholder} (h : Occurrence.Enters d limit ⟨path, text, body⟩ p definition)
    (hbelow : ∀ below e, ¬d.FaultIn limit (p.name :: path) definition
      (Template.ofText definition).holes below e)
    {next : List Nat} (hleast : IsLeast (d.Faulty limit path text rest) next) :
    IsLeast (d.Faulty limit path text ((body, following) :: rest)) (nextAddress next) := by
  obtain ⟨⟨e, hf⟩, hle⟩ := hleast
  refine ⟨⟨e, (faultIn_cons_iff h).mpr (.inr ⟨next, rfl, hf⟩)⟩, ?_⟩
  rintro address ⟨e', hf'⟩
  rcases (faultIn_cons_iff h).mp hf' with ⟨below, rfl, hf''⟩ | ⟨other, rfl, hother⟩
  · exact absurd hf'' (hbelow below e')
  · exact nextAddress_mono hf.ne_nil (hle ⟨e', hother⟩)

theorem isLeast_of_expandHoles {holes : List (Text × Text)} {e : ExpansionError}
    (h : d.expandHoles limit path text holes = .error e) :
    ∃ address, IsLeast (d.Faulty limit path text holes) address ∧
      d.FaultIn limit path text holes address e := by
  induction path, text, holes using expandHoles_induction d limit with
  | nil path text =>
    rw [expandHoles_nil] at h
    cases h
  | fault path text body following rest e' hfault =>
    rw [expandHoles_of_fault hfault] at h
    cases h
    exact ⟨[0], isLeast_head hfault, faultIn_cons_head.mpr hfault⟩
  | enter path text body following rest p definition henter ihinner ihrest =>
    rcases (expandHoles_enters_error_iff henter).mp h with hinner | ⟨filled, hinner, hrest⟩
    · obtain ⟨below, hleast, hf⟩ := ihinner hinner
      exact ⟨0 :: below, isLeast_below henter hleast,
        (faultIn_cons_iff henter).mpr (.inl ⟨below, rfl, hf⟩)⟩
    · obtain ⟨next, hleast, hf⟩ := ihrest hrest
      exact ⟨nextAddress next, isLeast_next henter (not_faultIn_of_expandHoles hinner) hleast,
        (faultIn_cons_iff henter).mpr (.inr ⟨next, rfl, hf⟩)⟩

/-- The error belongs to the first placeholder of the unfolding that is at fault. -/
def FirstFault (d : Dictionary) (limit : Nat) (expression : Text) (e : ExpansionError) : Prop :=
  ∃ address, IsLeast {a | ∃ e', d.FaultAt limit expression a e'} address ∧
    d.FaultAt limit expression address e

theorem expand_eq_error_iff_firstFault {expression : Text} {e : ExpansionError} :
    d.expand limit expression = .error e ↔ d.FirstFault limit expression e := by
  constructor
  · intro h
    exact isLeast_of_expandHoles (expandWithin_eq_error_iff.mp h)
  · rintro ⟨address, hleast, hf⟩
    cases h : d.expand limit expression with
    | ok out =>
      obtain ⟨filled, hfilled, -⟩ := expandWithin_eq_ok_iff.mp h
      exact absurd hf (not_faultIn_of_expandHoles hfilled address e)
    | error e' =>
      obtain ⟨address', hleast', hf'⟩ := isLeast_of_expandHoles (expandWithin_eq_error_iff.mp h)
      have haddress : address' = address := hleast'.unique hleast
      subst haddress
      have he : e' = e := FaultIn.unique hf' hf
      rw [he]

example :
    let d : Dictionary := .ofList [("OUTER", "<%{INNER}>"), ("INNER", "%{NOPE}")]
    d.expand 64 "%{OUTER} %{}" =
      .error (.undefinedPattern "NOPE" ⟨.definition "INNER" "%{NOPE}", "%{NOPE}"⟩) := by cbv

theorem expand_isError_iff {expression : Text} :
    (∃ e, d.expand limit expression = .error e) ↔
      ∃ address e, d.FaultAt limit expression address e := by
  constructor
  · rintro ⟨e, h⟩
    obtain ⟨address, hleast, hf⟩ := expand_eq_error_iff_firstFault.mp h
    exact ⟨address, e, hf⟩
  · rintro ⟨address, e, hf⟩
    cases h : d.expand limit expression with
    | error e' => exact ⟨e', rfl⟩
    | ok out =>
      obtain ⟨filled, hfilled, -⟩ := expandWithin_eq_ok_iff.mp h
      exact absurd hf (not_faultIn_of_expandHoles hfilled address e)

end Grok.Dictionary

namespace Grok.Compiler

theorem expand_fails_at_first_fault (c : Compiler) (expression : Text) :
    ((∃ e, c.expand expression = .error e) ↔
      ∃ address cause, c.dictionary.FaultAt c.maxDepth expression address cause) ∧
    ∀ cause, c.expand expression = .error (.expansion cause) ↔
      c.dictionary.FirstFault c.maxDepth expression cause := by
  constructor
  · rw [← Dictionary.expand_isError_iff]
    constructor
    · rintro ⟨e, h⟩
      obtain ⟨cause, hcause, -⟩ := expand_eq_error_iff.mp h
      exact ⟨cause, hcause⟩
    · rintro ⟨cause, hcause⟩
      exact ⟨_, expand_eq_error_iff.mpr ⟨cause, hcause, rfl⟩⟩
  · intro cause
    rw [← Dictionary.expand_eq_error_iff_firstFault, expand_eq_error_iff]
    constructor
    · rintro ⟨cause', hcause, he⟩
      cases he
      exact hcause
    · intro hcause
      exact ⟨cause, hcause, rfl⟩

end Grok.Compiler
