import Grok.Proofs.Expansion.Concatenation
import Grok.Proofs.Expansion.Layout

namespace Grok

namespace Template

def HasPlaceholder (t : Text) : Prop :=
  ∃ before after : Text, t = before ++ '%' :: '{' :: after ∧ '}' ∈ after

def literals (template : Template) : List Text := template.lead :: template.holes.map (·.2)

/-- Every placeholder is taken from the left as far as the next closing brace. -/
structure Leftmost (template : Template) : Prop where
  bodies : ∀ hole ∈ template.holes, '}' ∉ hole.1
  before : ∀ literal ∈ template.literals.dropLast, ¬HasOpener literal
  behind : ¬HasPlaceholder template.trail

variable {t lead body following : Text} {rest : List (Text × Text)} {template : Template}

theorem HasPlaceholder.closing_mem (h : HasPlaceholder t) : '}' ∈ t := by
  obtain ⟨before, after, rfl, hclosing⟩ := h
  simp [hclosing]

theorem isCut_literal_iff : IsCut ⟨lead, []⟩ ↔ ¬HasPlaceholder lead := by
  constructor
  · rintro h ⟨before, after, hlead, hclosing⟩
    cases h with
    | literal hopener => exact hopener before after hlead hclosing
  · intro h
    exact .literal fun before after hlead hclosing => h ⟨before, after, hlead, hclosing⟩

theorem isCut_hole_iff : IsCut ⟨lead, (body, following) :: rest⟩ ↔
    '}' ∉ body ∧ ¬HasOpener lead ∧ IsCut ⟨following, rest⟩ := by
  constructor
  · intro h
    cases h with
    | hole hlead hbody hrest => exact ⟨hbody, hlead, hrest⟩
  · rintro ⟨hbody, hlead, hrest⟩
    exact .hole hlead hbody hrest

theorem leftmost_literal_iff : Leftmost ⟨lead, []⟩ ↔ ¬HasPlaceholder lead :=
  ⟨fun h => h.behind, fun h => ⟨by simp, by simp [literals], h⟩⟩

theorem leftmost_hole_iff : Leftmost ⟨lead, (body, following) :: rest⟩ ↔
    '}' ∉ body ∧ ¬HasOpener lead ∧ Leftmost ⟨following, rest⟩ := by
  have hliterals : (⟨lead, (body, following) :: rest⟩ : Template).literals.dropLast =
      lead :: (⟨following, rest⟩ : Template).literals.dropLast := rfl
  constructor
  · rintro ⟨hbodies, hbefore, hbehind⟩
    rw [List.forall_mem_cons] at hbodies
    rw [hliterals, List.forall_mem_cons] at hbefore
    rw [trail_hole] at hbehind
    exact ⟨hbodies.1, hbefore.1, hbodies.2, hbefore.2, hbehind⟩
  · rintro ⟨hbody, hlead, hbodies, hbefore, hbehind⟩
    refine ⟨List.forall_mem_cons.mpr ⟨hbody, hbodies⟩, ?_, ?_⟩
    · rw [hliterals]
      exact List.forall_mem_cons.mpr ⟨hlead, hbefore⟩
    · rwa [trail_hole]

theorem isCut_iff_leftmost : template.IsCut ↔ template.Leftmost := by
  obtain ⟨lead, holes⟩ := template
  induction holes generalizing lead with
  | nil => rw [isCut_literal_iff, leftmost_literal_iff]
  | cons hole rest ih =>
    obtain ⟨body, following⟩ := hole
    rw [isCut_hole_iff, leftmost_hole_iff, ih following]

theorem hasPlaceholder_iff_exists_hole : HasPlaceholder t ↔
    ∃ lead body following rest, ofText t = ⟨lead, (body, following) :: rest⟩ := by
  have hcut := isCut_ofText t
  have htext := toText_ofText t
  cases hof : ofText t with
  | mk lead holes =>
    rw [hof] at hcut htext
    cases holes with
    | nil =>
      rw [toText_literal] at htext
      simp [← htext, isCut_literal_iff.mp hcut]
    | cons hole rest =>
      obtain ⟨body, following⟩ := hole
      refine iff_of_true ⟨lead, body ++ '}' :: toText ⟨following, rest⟩, ?_, by simp⟩ ⟨_, _, _, _, rfl⟩
      rw [← htext, toText_hole]
      simp [Placeholder.written]

end Template

namespace Dictionary

open Template

variable {d : Dictionary} {limit height : Nat} {path : List Text} {t : Text} {template : Template}

theorem expandWithin_eq_fill (htext : template.toText = t) (hleftmost : template.Leftmost) :
    d.expandWithin limit path t = d.fill limit path t template := by
  rw [← ofText_eq_iff.mpr ⟨isCut_iff_leftmost.mpr hleftmost, htext⟩]
  rfl

theorem Expands.not_hasPlaceholder (h : d.Expands t t height) : ¬HasPlaceholder t := by
  intro hplaceholder
  obtain ⟨lead, body, following, rest, hcut⟩ := hasPlaceholder_iff_exists_hole.mp hplaceholder
  have htext := toText_ofText t
  rw [hcut, toText_hole] at htext
  obtain ⟨filled, hfills, hout⟩ := h
  rw [hcut] at hfills hout
  cases hfills with
  | @cons p _ _ definition inner out _ _ _ hvalid hbody hdef hinner hrest =>
    -- the group in place of the placeholder starts with a parenthesis, the placeholder does not
    have hsame := List.append_cancel_left (hout.trans htext.symm)
    have hhead := congrArg List.head? hsame
    rw [List.append_assoc, List.head?_append, Placeholder.head?_wrap] at hhead
    simp [Placeholder.written] at hhead

theorem expand_eq_self_iff : d.expand limit t = .ok t ↔ ¬HasPlaceholder t := by
  constructor
  · intro h
    obtain ⟨height, -, hexpands⟩ := expand_eq_ok_iff_expands.mp h
    exact hexpands.not_hasPlaceholder
  · intro h
    have hleftmost : Leftmost ⟨t, []⟩ := leftmost_literal_iff.mpr h
    rw [expand, expandWithin_eq_fill toText_literal hleftmost, fill_literal]

end Dictionary

namespace Compiler

open Template

/-- The cut of a text loses nothing and is leftmost, and it is the only such cut: whichever is found,
it is the one that expansion works on, by any dictionary and below any path. The texts that a compiler
expands into themselves are those without placeholders. -/
theorem texts_are_cut_at_leftmost_placeholders (t : Text) :
    (ofText t).toText = t ∧ (ofText t).Leftmost ∧
    (∀ template : Template, template.toText = t → template.Leftmost →
      template = ofText t ∧ ∀ (d : Dictionary) (limit : Nat) (path : List Text),
        d.expandWithin limit path t = d.fill limit path t template) ∧
    ∀ c : Compiler, c.expand t = .ok t ↔ ¬HasPlaceholder t := by
  refine ⟨toText_ofText t, isCut_iff_leftmost.mp (isCut_ofText t), ?_, ?_⟩
  · intro template htext hleftmost
    refine ⟨?_, fun d limit path => Dictionary.expandWithin_eq_fill htext hleftmost⟩
    exact (ofText_eq_iff.mpr ⟨isCut_iff_leftmost.mpr hleftmost, htext⟩).symm
  · intro c
    rw [expand_eq_ok_iff]
    exact Dictionary.expand_eq_self_iff

theorem openers_stay_in_body_and_behind :
    let t : Text := "%%\x7ba\n%\x7bB\x7d\u00e9%\x7b%"
    let template : Template := ⟨"%", [("a\n%\x7bB", "\u00e9%\x7b%")]⟩
    template.toText = t ∧ template.Leftmost ∧ ofText t = template ∧
      (∀ c : Compiler, c.expand t ≠ .ok t) ∧
      ∀ c : Compiler, c.expand template.trail = .ok template.trail := by
  intro t template
  have htext : template.toText = t := rfl
  have hbehind : ¬HasPlaceholder template.trail := fun h => absurd h.closing_mem (by decide)
  have hleftmost : template.Leftmost := ⟨by decide, by decide, hbehind⟩
  have hplaceholder : HasPlaceholder t :=
    ⟨"%", "a\n%\x7bB\x7d\u00e9%\x7b%", rfl, by decide⟩
  obtain ⟨-, -, hunique, hself⟩ := texts_are_cut_at_leftmost_placeholders t
  refine ⟨htext, hleftmost, (hunique template htext hleftmost).1.symm, ?_, ?_⟩
  · exact fun c hexpand => (hself c).mp hexpand hplaceholder
  · exact fun c => ((texts_are_cut_at_leftmost_placeholders template.trail).2.2.2 c).mpr hbehind

end Compiler

end Grok
