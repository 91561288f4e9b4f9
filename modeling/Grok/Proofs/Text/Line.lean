import Grok.Text.Line
import Mathlib

namespace Grok.Text

variable {line rest t : Text}

theorem lines_lineFeed (rest : Text) : lines ('\n' :: rest) = [] :: lines rest := by
  simp [lines]

theorem lines_cons {c : Char} (hc : c ≠ '\n') (hreturn : c = '\r' → rest.head? ≠ some '\n') :
    lines (c :: rest) = ((lines rest).headD []).cons c :: (lines rest).tail := by
  rw [lines]
  · rw [if_neg hc]
    cases lines rest <;> rfl
  · rintro after rfl rfl
    exact hreturn rfl rfl

theorem lineFeed_not_mem (h : line ∈ lines t) : '\n' ∉ line := by
  fun_induction lines t generalizing line with
  | case1 => cases h
  | case2 rest ih =>
    rcases List.mem_cons.mp h with rfl | h
    · exact List.not_mem_nil
    · exact ih h
  | case3 rest _ ih =>
    rcases List.mem_cons.mp h with rfl | h
    · exact List.not_mem_nil
    · exact ih h
  | case4 c rest _ hc hnil ih =>
    obtain rfl := List.mem_singleton.mp h
    simpa using Ne.symm hc
  | case5 c rest _ hc first more hlines ih =>
    rw [hlines] at ih
    rcases List.mem_cons.mp h with rfl | h
    · have hfirst := ih List.mem_cons_self
      simp [hfirst, Ne.symm hc]
    · exact ih (List.mem_cons_of_mem _ h)

theorem lines_append_lineFeed (hline : '\n' ∉ line) (hreturn : line.getLast? ≠ some '\r')
    (rest : Text) : lines (line ++ '\n' :: rest) = line :: lines rest := by
  induction line with
  | nil => exact lines_lineFeed rest
  | cons c line ih =>
    rw [List.mem_cons, not_or] at hline
    have hnext : c = '\r' → (line ++ '\n' :: rest).head? ≠ some '\n' := by
      rintro rfl hhead
      cases line with
      | nil => exact hreturn rfl
      | cons next line => simp_all
    have hlast : line.getLast? ≠ some '\r' := by
      intro hr
      exact hreturn (by simp [List.getLast?_cons, hr])
    rw [List.cons_append, lines_cons (Ne.symm hline.1) hnext, ih hline.2 hlast]
    rfl

theorem lines_of_lineFeed_not_mem (hline : '\n' ∉ line) (hne : line ≠ []) :
    lines line = [line] := by
  induction line with
  | nil => exact absurd rfl hne
  | cons c line ih =>
    rw [List.mem_cons, not_or] at hline
    have hnext : c = '\r' → line.head? ≠ some '\n' := by
      intro _ hhead
      exact hline.2 (List.mem_of_mem_head? hhead)
    rw [lines_cons (Ne.symm hline.1) hnext]
    by_cases hnil : line = []
    · subst hnil
      rfl
    · rw [ih hline.2 hnil]
      rfl

theorem lines_eq_nil_iff : lines t = [] ↔ t = [] := by
  constructor
  · intro h
    unfold lines at h
    split at h
    · rfl
    · cases h
    · split at h
      · cases h
      · split at h <;> cases h
  · rintro rfl
    rfl

theorem lines_append_return (hline : '\n' ∉ line) (rest : Text) :
    lines (line ++ '\r' :: '\n' :: rest) = line :: lines rest := by
  induction line with
  | nil => simp [lines]
  | cons c line ih =>
    rw [List.mem_cons, not_or] at hline
    have hnext : (line ++ '\r' :: '\n' :: rest).head? ≠ some '\n' := by
      cases line with
      | nil => simp
      | cons next line => simp_all [eq_comm]
    rw [List.cons_append, lines_cons (Ne.symm hline.1) fun _ => hnext, ih hline.2]
    rfl

def LineEnded (t : Text) : Prop := t = [] ∨ t.getLast? = some '\n'

theorem lineEnded_concat (t : Text) : LineEnded (t ++ ['\n']) := .inr (by rw [List.getLast?_concat])

theorem LineEnded.of_cons {c : Char} (h : LineEnded (c :: t)) : LineEnded t := by
  by_cases ht : t = []
  · exact .inl ht
  · refine .inr ?_
    rw [← List.getLast?_cons_of_ne_nil ht]
    exact h.resolve_left (List.cons_ne_nil c t)

theorem LineEnded.eq_lineFeed {c : Char} (h : LineEnded [c]) : c = '\n' :=
  Option.some.inj (h.resolve_left (List.cons_ne_nil c []))

theorem lines_append (h : LineEnded t) (rest : Text) :
    lines (t ++ rest) = lines t ++ lines rest := by
  fun_induction lines t with
  | case1 => rfl
  | case2 t ih =>
    rw [List.cons_append, List.cons_append, lines, ih h.of_cons.of_cons, List.cons_append]
  | case3 t _ ih => rw [List.cons_append, lines_lineFeed, ih h.of_cons, List.cons_append]
  | case4 c t _ hc hnil ih =>
    obtain rfl := lines_eq_nil_iff.mp hnil
    exact absurd h.eq_lineFeed hc
  | case5 c t hreturn hc first more hlines ih =>
    have hne : t ≠ [] := by
      rintro rfl
      exact hc h.eq_lineFeed
    have hnext : c = '\r' → (t ++ rest).head? ≠ some '\n' := by
      rintro rfl hhead
      rw [List.head?_append_of_ne_nil t hne] at hhead
      obtain ⟨after, rfl⟩ := List.head?_eq_some_iff.mp hhead
      exact hreturn after rfl rfl
    rw [List.cons_append, lines_cons hc hnext, ih h.of_cons, hlines]
    rfl

theorem exists_lineEnded_append (t : Text) :
    ∃ front line, t = front ++ line ∧ LineEnded front ∧ '\n' ∉ line := by
  induction t using List.reverseRecOn with
  | nil => exact ⟨[], [], rfl, .inl rfl, List.not_mem_nil⟩
  | append_singleton t c ih =>
    by_cases hc : c = '\n'
    · exact ⟨t ++ [c], [], by simp, hc ▸ lineEnded_concat t, List.not_mem_nil⟩
    · obtain ⟨front, line, rfl, hfront, hline⟩ := ih
      refine ⟨front, line ++ [c], by simp, hfront, ?_⟩
      simpa [hline] using Ne.symm hc

end Grok.Text
