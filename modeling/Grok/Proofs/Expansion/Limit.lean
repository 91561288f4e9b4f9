import Grok.Compiler
import Grok.Proofs.Expansion.Path

namespace Grok

namespace Occurrence

variable {d : Dictionary} {limit limit' : Nat} {o : Occurrence}

theorem Enters.of_le {p : Placeholder} {definition : Text} (h : o.Enters d limit p definition)
    (hle : limit ≤ limit') : o.Enters d limit' p definition :=
  { h with shallow := h.shallow.trans_le hle }

theorem Fault.of_ne_tooDeep {e : ExpansionError} (h : o.Fault d limit e)
    (he : ∀ n place, e ≠ .tooDeep n place) : o.Fault d limit' e := by
  cases h with
  | invalid hbody => exact .invalid hbody
  | undefined hvalid hbody hname => exact .undefined hvalid hbody hname
  | cyclic hvalid hbody hname hpath => exact .cyclic hvalid hbody hname hpath
  | tooDeep hvalid hbody hname hpath hlimit => exact absurd rfl (he _ _)

end Occurrence

namespace Dictionary

variable {d : Dictionary} {limit limit' : Nat} {path : List Text} {text expression : Text}
  {holes : List (Text × Text)}

theorem expandHoles_of_le (hle : limit ≤ limit')
    (h : ∀ n place, d.expandHoles limit path text holes ≠ .error (.tooDeep n place)) :
    d.expandHoles limit' path text holes = d.expandHoles limit path text holes := by
  induction path, text, holes using expandHoles_induction d limit with
  | nil path text => rw [expandHoles_nil, expandHoles_nil]
  | fault path text body following rest e hfault =>
    have he : ∀ n place, e ≠ .tooDeep n place := by
      intro n place heq
      apply h n place
      rw [expandHoles_of_fault hfault, heq]
    rw [expandHoles_of_fault hfault, expandHoles_of_fault (hfault.of_ne_tooDeep he)]
  | enter path text body following rest p definition henter ihinner ihrest =>
    have hinner := ihinner fun n place hdeep =>
      h n place ((expandHoles_enters_error_iff henter).mpr (.inl hdeep))
    rw [expandHoles_of_enters henter, expandHoles_of_enters (henter.of_le hle), expandWithin_eq,
      expandWithin_eq, hinner]
    cases hin : d.expandHoles limit (p.name :: path) definition (Template.ofText definition).holes with
    | error e => rfl
    | ok filled =>
      -- the rest of the text is looked at only here, where the definition is expanded in full
      have hrest := ihrest fun n place hdeep =>
        h n place ((expandHoles_enters_error_iff henter).mpr (.inr ⟨filled, hin, hdeep⟩))
      rw [hrest]

theorem expand_of_le (hle : limit ≤ limit')
    (h : ∀ n place, d.expand limit expression ≠ .error (.tooDeep n place)) :
    d.expand limit' expression = d.expand limit expression := by
  unfold expand
  rw [expandWithin_eq, expandWithin_eq, expandHoles_of_le hle]
  intro n place hdeep
  exact h n place (expandWithin_eq_error_iff.mpr hdeep)

theorem expand_ok_of_le {out : Text} (hle : limit ≤ limit')
    (h : d.expand limit expression = .ok out) : d.expand limit' expression = .ok out := by
  rw [expand_of_le hle, h]
  intro n place hdeep
  cases h.symm.trans hdeep

theorem limit_of_tooDeep {n : Nat} {place : Place}
    (h : d.expand limit expression = .error (.tooDeep n place)) : n = limit := by
  obtain ⟨o, following, htrail, hhole, hfault⟩ := exists_fault_of_expand h
  cases hfault with
  | tooDeep => rfl

theorem tooDeep_of_le (hle : limit ≤ limit') {n : Nat} {place : Place}
    (h : d.expand limit' expression = .error (.tooDeep n place)) :
    ∃ place', d.expand limit expression = .error (.tooDeep limit place') := by
  by_contra hcut
  have hne : ∀ m place', d.expand limit expression ≠ .error (.tooDeep m place') := by
    intro m place' hdeep
    obtain rfl := limit_of_tooDeep hdeep
    exact hcut ⟨place', hdeep⟩
  rw [expand_of_le hle hne] at h
  exact hne n place h

end Dictionary

namespace Compiler

def withLimit (c : Compiler) (limit : Nat) : Compiler := { c with maxDepth := limit }

variable {c : Compiler} {limit : Nat} {expression : Text}

theorem expand_withLimit : (c.withLimit limit).expand expression =
    (c.dictionary.expand limit expression).mapError .expansion := rfl

theorem expand_withLimit_eq_tooDeep_iff {n : Nat} {place : Place} :
    (c.withLimit limit).expand expression = .error (.expansion (.tooDeep n place)) ↔
      c.dictionary.expand limit expression = .error (.tooDeep n place) := by
  rw [expand_eq_error_iff]
  constructor
  · rintro ⟨cause, hcause, he⟩
    cases he
    exact hcause
  · intro h
    exact ⟨_, h, rfl⟩

/-- A larger limit changes no result but the one of the limit itself, and that one names the limit
in force. -/
theorem limit_only_cuts_expansion (c : Compiler) (expression : Text) {limit limit' : Nat}
    (hle : limit ≤ limit') :
    (∀ result, (c.withLimit limit).expand expression = result →
      (∀ n place, result ≠ .error (.expansion (.tooDeep n place))) →
        (c.withLimit limit').expand expression = result) ∧
    ∀ n place, (c.withLimit limit').expand expression = .error (.expansion (.tooDeep n place)) →
      n = limit' ∧ ∃ place',
        (c.withLimit limit).expand expression = .error (.expansion (.tooDeep limit place')) := by
  constructor
  · rintro result rfl hresult
    rw [expand_withLimit, expand_withLimit, Dictionary.expand_of_le hle]
    intro n place hdeep
    exact hresult n place (expand_withLimit_eq_tooDeep_iff.mpr hdeep)
  · intro n place h
    have hdeep := expand_withLimit_eq_tooDeep_iff.mp h
    obtain ⟨place', hcut⟩ := Dictionary.tooDeep_of_le hle hdeep
    exact ⟨Dictionary.limit_of_tooDeep hdeep, place', expand_withLimit_eq_tooDeep_iff.mpr hcut⟩

theorem nested_chain_under_limits :
    let c : Compiler :=
      { dictionary := .ofList [("L1", "<%{L2}>"), ("L2", "%{L3:x}"), ("L3", "[0-9]")]
        engine := Regex.Dialect.backtracking.terse }
    let undefined : Except Error Text :=
      .error (.expansion (.undefinedPattern "NOPE" ⟨.expression "%{L1}%{NOPE}", "%{NOPE}"⟩))
    let deep : Place := ⟨.definition "L2" "%{L3:x}", "%{L3:x}"⟩
    (c.withLimit 3).expand "%{L1}%{NOPE}" = undefined ∧
      (c.withLimit (2 ^ 64 - 1)).expand "%{L1}%{NOPE}" = undefined ∧
      (c.withLimit 2).expand "%{L1}%{NOPE}" = .error (.expansion (.tooDeep 2 deep)) ∧
      ∃ place, (c.withLimit 1).expand "%{L1}%{NOPE}" = .error (.expansion (.tooDeep 1 place)) := by
  intro c undefined deep
  have hundefined : (c.withLimit 3).expand "%{L1}%{NOPE}" = undefined := by
    rw [expand_withLimit]
    cbv
  have hdeep : (c.withLimit 2).expand "%{L1}%{NOPE}" = .error (.expansion (.tooDeep 2 deep)) := by
    rw [expand_withLimit]
    cbv
  have hne : ∀ n place, undefined ≠ .error (.expansion (.tooDeep n place)) := by simp [undefined]
  have hsame := (limit_only_cuts_expansion c "%{L1}%{NOPE}" (by decide : 3 ≤ 2 ^ 64 - 1)).1 _
    hundefined hne
  have hcut := (limit_only_cuts_expansion c "%{L1}%{NOPE}" (by decide : 1 ≤ 2)).2 2 deep hdeep
  exact ⟨hundefined, hsame, hdeep, hcut.2⟩

end Compiler

end Grok
