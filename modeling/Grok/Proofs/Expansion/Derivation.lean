import Grok.Compiler
import Grok.Proofs.Expansion.Step

/-!
Expansion without a path and without a limit: each placeholder is replaced by a group around an
expansion of its definition, as long as there is one. The height of an expansion is the number of
definitions that stand inside one another. Compilers find exactly the expansions that are not
higher than their limit.
-/

namespace Grok

namespace Dictionary

inductive Fills (d : Dictionary) : List (Text × Text) → Text → Nat → Prop
  | nil : Fills d [] [] 0
  | cons {p : Placeholder} {body following definition inner out : Text}
      {rest : List (Text × Text)} {below height : Nat} (hvalid : p.Valid) (hbody : p.body = body)
      (hdef : d.get? p.name = some definition)
      (hinner : Fills d (Template.ofText definition).holes inner below)
      (hrest : Fills d rest out height) :
      Fills d ((body, following) :: rest)
        (p.wrap ((Template.ofText definition).lead ++ inner) ++ following ++ out)
        (max (below + 1) height)

/-- The expansion of a text by the definitions alone. -/
def Expands (d : Dictionary) (text out : Text) (height : Nat) : Prop :=
  ∃ filled, d.Fills (Template.ofText text).holes filled height ∧
    (Template.ofText text).lead ++ filled = out

def HasHeight (d : Dictionary) (name : Text) (height : Nat) : Prop :=
  ∃ definition out, d.get? name = some definition ∧ d.Expands definition out height

variable {d : Dictionary} {limit : Nat} {path : List Text} {text : Text}
  {holes : List (Text × Text)}

theorem Fills.unique {out out' : Text} {height height' : Nat} (h : d.Fills holes out height)
    (h' : d.Fills holes out' height') : out = out' ∧ height = height' := by
  induction h generalizing out' height' with
  | nil =>
    cases h'
    exact ⟨rfl, rfl⟩
  | @cons p body following definition inner out rest below height hvalid hbody hdef hinner hrest
      ihinner ihrest =>
    cases h' with
    | @cons q _ _ definition' _ _ _ _ _ hvalid' hbody' hdef' hinner' hrest' =>
      have hpq : p = q := hvalid.eq_of_body_eq hvalid' (hbody.trans hbody'.symm)
      subst hpq
      have hdd : definition = definition' := Option.some.inj (hdef.symm.trans hdef')
      subst hdd
      obtain ⟨rfl, rfl⟩ := ihinner hinner'
      obtain ⟨rfl, rfl⟩ := ihrest hrest'
      exact ⟨rfl, rfl⟩

theorem Expands.unique {out out' : Text} {height height' : Nat} (h : d.Expands text out height)
    (h' : d.Expands text out' height') : out = out' ∧ height = height' := by
  obtain ⟨filled, hf, rfl⟩ := h
  obtain ⟨filled', hf', rfl⟩ := h'
  obtain ⟨rfl, rfl⟩ := hf.unique hf'
  exact ⟨rfl, rfl⟩

theorem HasHeight.unique {name : Text} {height height' : Nat} (h : d.HasHeight name height)
    (h' : d.HasHeight name height') : height = height' := by
  obtain ⟨definition, out, hdef, hexp⟩ := h
  obtain ⟨definition', out', hdef', hexp'⟩ := h'
  have hdd : definition = definition' := Option.some.inj (hdef.symm.trans hdef')
  subst hdd
  exact (hexp.unique hexp').2

theorem fills_of_expandHoles {out : Text} (h : d.expandHoles limit path text holes = .ok out)
    (hpath : path.length ≤ limit) :
    ∃ height, d.Fills holes out height ∧ path.length + height ≤ limit := by
  induction path, text, holes using expandHoles_induction d limit
    generalizing out with
  | nil path text =>
    rw [expandHoles_nil] at h
    cases h
    exact ⟨0, .nil, hpath⟩
  | fault path text body following rest e hfault =>
    rw [expandHoles_of_fault hfault] at h
    cases h
  | enter path text body following rest p definition henter ihinner ihrest =>
    obtain ⟨filled, remaining, hinner, hrest, rfl⟩ := (expandHoles_enters_ok_iff henter).mp h
    have hlength : (p.name :: path).length ≤ limit := henter.shallow
    obtain ⟨below, hbelow, hb⟩ := ihinner hinner hlength
    obtain ⟨height, hheight, hh⟩ := ihrest hrest hpath
    refine ⟨_, .cons henter.valid henter.body henter.defined hbelow hheight, ?_⟩
    rw [List.length_cons] at hb
    omega

def Above (d : Dictionary) (height : Nat) (path : List Text) : Prop :=
  ∀ name ∈ path, ∃ k, d.HasHeight name k ∧ height ≤ k

theorem Above.mono {h k : Nat} (ha : d.Above k path) (hle : h ≤ k) : d.Above h path := by
  intro name hname
  obtain ⟨n, hn, hk⟩ := ha name hname
  exact ⟨n, hn, hle.trans hk⟩

theorem Above.enter {name definition inner : Text} {below height : Nat}
    (ha : d.Above (max (below + 1) height) path) (hdef : d.get? name = some definition)
    (hinner : d.Fills (Template.ofText definition).holes inner below) :
    name ∉ path ∧ d.Above below (name :: path) := by
  have hname : d.HasHeight name below := ⟨definition, _, hdef, inner, hinner, rfl⟩
  constructor
  · intro hmem
    obtain ⟨k, hk, hle⟩ := ha name hmem
    have := hname.unique hk
    omega
  · intro n hmem
    rcases List.mem_cons.mp hmem with rfl | hmem
    · exact ⟨below, hname, le_refl below⟩
    · obtain ⟨k, hk, hle⟩ := ha n hmem
      exact ⟨k, hk, by omega⟩

theorem expandHoles_of_fills {out : Text} {height : Nat} (h : d.Fills holes out height)
    (hpath : d.Above height path) (hlimit : path.length + height ≤ limit) :
    d.expandHoles limit path text holes = .ok out := by
  induction h generalizing path text with
  | nil => exact expandHoles_nil
  | @cons p body following definition inner out rest below height hvalid hbody hdef hinner hrest
      ihinner ihrest =>
    obtain ⟨hfresh, hpath'⟩ := hpath.enter hdef hinner
    have henter : Occurrence.Enters d limit ⟨path, text, body⟩ p definition :=
      ⟨hvalid, hbody, hdef, hfresh, by dsimp only; omega⟩
    apply (expandHoles_enters_ok_iff henter).mpr
    refine ⟨inner, out, ihinner hpath' ?_, ihrest (hpath.mono (le_max_right _ _)) ?_, rfl⟩
    · rw [List.length_cons]
      omega
    · omega

/-- A finite expansion is cut off by the limit alone: no pattern of its path can come up again. -/
theorem expandHoles_cut {out : Text} {height : Nat} (h : d.Fills holes out height)
    (hpath : d.Above height path) (hlimit : limit < path.length + height)
    (hlength : path.length ≤ limit) :
    ∃ place, d.expandHoles limit path text holes = .error (.tooDeep limit place) := by
  induction h generalizing path text with
  | nil => omega
  | @cons p body following definition inner out rest below height hvalid hbody hdef hinner hrest
      ihinner ihrest =>
    obtain ⟨hfresh, hpath'⟩ := hpath.enter hdef hinner
    by_cases hdeep : limit ≤ path.length
    · exact ⟨_, expandHoles_of_fault
        (.tooDeep hvalid hbody (mem_names_of_get? hdef) hfresh hdeep)⟩
    have henter : Occurrence.Enters d limit ⟨path, text, body⟩ p definition :=
      ⟨hvalid, hbody, hdef, hfresh, by dsimp only; omega⟩
    by_cases hin : (p.name :: path).length + below ≤ limit
    · -- the definition is expanded in full, so that the cut comes to the right of it
      have hok : d.expandHoles limit (p.name :: path) definition
          (Template.ofText definition).holes = .ok inner := expandHoles_of_fills hinner hpath' hin
      rw [List.length_cons] at hin
      obtain ⟨place, hplace⟩ := ihrest (hpath.mono (le_max_right _ _)) (by omega) hlength
      exact ⟨place, (expandHoles_enters_error_iff henter).mpr (.inr ⟨inner, hok, hplace⟩)⟩
    · have hlength' : (p.name :: path).length ≤ limit := henter.shallow
      obtain ⟨place, hplace⟩ := ihinner hpath' (by omega) hlength'
      exact ⟨place, (expandHoles_enters_error_iff henter).mpr (.inl hplace)⟩

theorem expand_eq_ok_iff_expands {expression out : Text} :
    d.expand limit expression = .ok out ↔ ∃ height ≤ limit, d.Expands expression out height := by
  unfold expand
  rw [expandWithin_eq_ok_iff]
  constructor
  · rintro ⟨filled, hfilled, hout⟩
    obtain ⟨height, hfills, hheight⟩ := fills_of_expandHoles hfilled (Nat.zero_le limit)
    rw [List.length_nil, Nat.zero_add] at hheight
    exact ⟨height, hheight, filled, hfills, hout⟩
  · rintro ⟨height, hheight, filled, hfills, hout⟩
    refine ⟨filled, expandHoles_of_fills hfills (by simp [Above]) ?_, hout⟩
    rw [List.length_nil, Nat.zero_add]
    exact hheight

theorem expand_cut {expression out : Text} {height : Nat} (h : d.Expands expression out height)
    (hlimit : limit < height) :
    ∃ place, d.expand limit expression = .error (.tooDeep limit place) := by
  obtain ⟨filled, hfills, hout⟩ := h
  have hcut : ∃ place, d.expandHoles limit [] expression (Template.ofText expression).holes =
      .error (.tooDeep limit place) :=
    expandHoles_cut hfills (by simp [Above]) (by simpa using hlimit) (Nat.zero_le limit)
  obtain ⟨place, hplace⟩ := hcut
  exact ⟨place, expandWithin_eq_error_iff.mpr hplace⟩

theorem expand_ne_cyclic {expression out : Text} {height : Nat}
    (h : d.Expands expression out height) (participants : List Text) :
    d.expand limit expression ≠ .error (.cyclicPattern participants) := by
  intro hcyclic
  by_cases hlimit : height ≤ limit
  · rw [expand_eq_ok_iff_expands.mpr ⟨height, hlimit, h⟩] at hcyclic
    cases hcyclic
  · obtain ⟨place, hplace⟩ := expand_cut h (Nat.lt_of_not_le hlimit)
    rw [hplace] at hcyclic
    cases hcyclic

end Dictionary

namespace Compiler

theorem expand_ok_iff_finite_expansion (c : Compiler) (expression : Text) :
    (∀ out, c.expand expression = .ok out ↔
      ∃ height ≤ c.maxDepth, c.dictionary.Expands expression out height) ∧
    ∀ out height, c.dictionary.Expands expression out height → ∀ participants,
      c.expand expression ≠ .error (.expansion (.cyclicPattern participants)) := by
  constructor
  · intro out
    rw [expand_eq_ok_iff, Dictionary.expand_eq_ok_iff_expands]
  · intro out height h participants hcyclic
    obtain ⟨cause, hcause, he⟩ := expand_eq_error_iff.mp hcyclic
    cases he
    exact Dictionary.expand_ne_cyclic h participants hcause

theorem expand_diamond :
    let c : Compiler :=
      { dictionary := .ofList
          [("TOP", "%{L}%{R:r}"), ("L", "%{D}"), ("R", "<%{D}>"), ("D", "[0-9]")]
        engine := Regex.Dialect.backtracking.terse
        maxDepth := 3 }
    let out : Text := "(?:(?:(?:[0-9]))(?P<r><(?:[0-9])>))-(?:[0-9])"
    c.expand "%{TOP}-%{D}" = .ok out ∧
      (∃ height ≤ 3, c.dictionary.Expands "%{TOP}-%{D}" out height) ∧
      ∀ participants, c.expand "%{TOP}-%{D}" ≠ .error (.expansion (.cyclicPattern participants)) := by
  intro c out
  have hok : c.expand "%{TOP}-%{D}" = .ok out := by cbv
  obtain ⟨hiff, hcycle⟩ := expand_ok_iff_finite_expansion c "%{TOP}-%{D}"
  obtain ⟨height, hheight, hexpands⟩ := (hiff out).mp hok
  exact ⟨hok, ⟨height, hheight, hexpands⟩, hcycle out height hexpands⟩

end Compiler

end Grok
