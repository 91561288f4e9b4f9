import Grok.Compiler
import Grok.Proofs.Expansion.Settled
import Mathlib

namespace Grok

theorem flatMap_toList_of_literals {literals : List String} {parts : List Text}
    (h : List.Forall₂ (fun literal part => literal = String.ofList part) literals parts) :
    literals.flatMap String.toList = parts.flatten := by
  induction h with
  | nil => rfl
  | cons hpart hrest ih =>
    rw [List.flatMap_cons, List.flatten_cons, hpart, String.toList_ofList, ih]

namespace Library

/-- The characters of the built-in file. The kernel is slow to decode a literal, and quick to see that
it spells certain characters. -/
def builtinSpelled : { parts : List Text // builtinFile = parts.flatten } := by
  apply Subtype.mk
  apply flatMap_toList_of_literals
  dsimp only
  repeat
    apply List.Forall₂.cons
    · rfl
  exact .nil

theorem builtin_of_spelled {P : Dictionary → Prop} [DecidablePred P]
    (h : (PatternFile.read builtinSpelled.1.flatten builtinOrigin).result.map (fun d => decide (P d)) =
      .ok true) : ∃ d, builtin.result = .ok d ∧ P d := by
  rw [← builtinSpelled.2] at h
  cases hd : (PatternFile.read builtinFile builtinOrigin).result with
  | error e =>
    rw [hd] at h
    cases h
  | ok d =>
    rw [hd] at h
    exact ⟨d, hd, of_decide_eq_true (Except.ok.inj h)⟩

theorem builtin_settled : ∃ d, builtin.result = .ok d ∧ d.settled 5 = d.names :=
  builtin_of_spelled (by decide +kernel)

/-- An expression of well-formed placeholders for built-in patterns expands under the limit that is in
force by default, and under every limit from five on. -/
theorem builtin_expands_what_keeps_to_it :
    ∃ d, builtin.result = .ok d ∧ ∀ c : Compiler, c.dictionary = d →
      (c.maxDepth = Config.maxDepth {} ∨ 5 ≤ c.maxDepth) →
        ∀ expression, KeepsTo d.names expression →
          (∃ out, c.expand expression = .ok out) ∧
            ∀ cause, c.expand expression ≠ .error (.expansion cause) := by
  obtain ⟨d, hd, hsettled⟩ := builtin_settled
  refine ⟨d, hd, ?_⟩
  rintro c rfl hlimit expression hkeeps
  have hfive : 5 ≤ c.maxDepth := by
    rcases hlimit with hdefault | hfive
    · rw [hdefault]
      decide
    · exact hfive
  have hnames : ∀ name ∈ c.dictionary.names, name ∈ c.dictionary.settled 5 := by
    intro name hname
    rwa [hsettled]
  obtain ⟨out, hout⟩ := Dictionary.expand_of_keepsTo hnames hfive hkeeps
  have hok : c.expand expression = .ok out := Compiler.expand_eq_ok_iff.mpr hout
  refine ⟨⟨out, hok⟩, ?_⟩
  intro cause herror
  rw [hok] at herror
  cases herror

theorem builtin_expands_deepest_patterns :
    let expression : Text := "^%{COMBINEDAPACHELOG:line}|%{URI:_}|%{SYSLOGBASE}$"
    ∃ c : Compiler, builtin.result = .ok c.dictionary ∧ c.maxDepth = 5 ∧
      KeepsTo c.dictionary.names expression ∧ ∃ out, c.expand expression = .ok out := by
  intro expression
  have hkeeps : ∃ d, builtin.result = .ok d ∧ KeepsTo d.names expression :=
    builtin_of_spelled (by decide +kernel)
  obtain ⟨own, hown, hkeeps⟩ := hkeeps
  obtain ⟨d, hd, hexpands⟩ := builtin_expands_what_keeps_to_it
  obtain rfl : own = d := Except.ok.inj (hown.symm.trans hd)
  let c : Compiler :=
    { dictionary := own, engine := Regex.Dialect.backtracking.terse, maxDepth := 5 }
  exact ⟨c, hd, rfl, hkeeps, (hexpands c rfl (.inr (le_refl 5)) expression hkeeps).1⟩

end Library

end Grok
