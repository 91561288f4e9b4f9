import Grok.Proofs.PatternFile.Grammar
import Grok.Proofs.Text.Line

namespace Grok

def Error.below (above : Nat) : Error → Error
  | .patternLine origin number problem => .patternLine origin (above + number) problem
  | e => e

namespace PatternFile

open Text

variable {origin text a : Text} {d base : Dictionary} {number above : Nat} {lines : List Text}
  {e : Error}

theorem result_readLines_append (origin : Text) (d : Dictionary) (number : Nat)
    (before after : List Text) : (readLines origin d number (before ++ after)).result =
      (readLines origin d number before).result.bind fun d' =>
        (readLines origin d' (number + before.length) after).result := by
  induction before generalizing d number with
  | nil => rfl
  | cons line rest ih =>
    have hnumber : number + (line :: rest).length = number + 1 + rest.length := by
      rw [List.length_cons]
      omega
    rw [List.cons_append, hnumber]
    cases hline : Line.ofText line with
    | skipped => rw [result_readLines_skipped hline, result_readLines_skipped hline, ih]
    | definition name definition =>
      rw [result_readLines_definition hline, result_readLines_definition hline, ih]
    | malformed problem =>
      rw [result_readLines_malformed hline, result_readLines_malformed hline]
      rfl

theorem result_readLines_below : (readLines origin (base.merge d) (above + number) lines).result =
    ((readLines origin d number lines).result.map base.merge).mapError (Error.below above) := by
  induction lines generalizing d number with
  | nil => rfl
  | cons line rest ih =>
    cases hline : Line.ofText line with
    | skipped =>
      rw [result_readLines_skipped hline, result_readLines_skipped hline, Nat.add_assoc, ih]
    | definition name definition =>
      rw [result_readLines_definition hline, result_readLines_definition hline, Nat.add_assoc,
        ← Dictionary.merge_insert, ih]
    | malformed problem =>
      rw [result_readLines_malformed hline, result_readLines_malformed hline]
      rfl

theorem result_read_append (ha : LineEnded a) (b origin : Text) :
    (read (a ++ b) origin).result = (read a origin).result.bind fun d =>
      ((read b origin).result.map d.merge).mapError (Error.below a.lines.length) := by
  unfold read
  rw [lines_append ha, result_readLines_append]
  congr 1
  funext d
  rw [Nat.add_comm, ← result_readLines_below, Dictionary.merge_empty]

theorem exists_patternLine_of_readLines (h : (readLines origin d number lines).result = .error e) :
    ∃ n problem, e = .patternLine origin n problem := by
  induction lines generalizing d number with
  | nil => cases h
  | cons line rest ih =>
    cases hline : Line.ofText line with
    | skipped =>
      rw [result_readLines_skipped hline] at h
      exact ih h
    | definition name definition =>
      rw [result_readLines_definition hline] at h
      exact ih h
    | malformed problem =>
      rw [result_readLines_malformed hline] at h
      cases h
      exact ⟨_, _, rfl⟩

/-- A file does not change where its last line gets its end. A carriage return that this makes a part
of the end is a blank before. -/
theorem result_read_lineFeed (text origin : Text) :
    (read (text ++ ['\n']) origin).result = (read text origin).result := by
  obtain ⟨front, line, rfl, hfront, hline⟩ := exists_lineEnded_append text
  have hlast : (read (line ++ ['\n']) origin).result = (read line origin).result := by
    by_cases hnil : line = []
    · subst hnil
      rfl
    · unfold read
      rw [lines_of_lineFeed_not_mem hline hnil]
      by_cases hreturn : line.getLast? = some '\r'
      · obtain ⟨core, rfl⟩ := List.getLast?_eq_some_iff.mp hreturn
        have hblank : Line.ofText (core ++ ['\r']) = Line.ofText core := by
          rw [ofText_eq, trim_append_of_blank (List.forall_mem_singleton.mpr (by decide)), ← ofText_eq]
        have hcore : '\n' ∉ core := fun hmem => hline (List.mem_append_left _ hmem)
        have hlines : Text.lines (core ++ ['\r'] ++ ['\n']) = [core] := by
          simpa [Text.lines] using lines_append_return hcore []
        rw [hlines]
        simp only [readLines, hblank]
      · have hlines : Text.lines (line ++ ['\n']) = [line] := by
          simpa [Text.lines] using lines_append_lineFeed hline hreturn []
        rw [hlines]
  rw [List.append_assoc, result_read_append hfront, result_read_append hfront, hlast]

theorem read_eq_ok_of_origin (h : (read text origin).result = .ok d) (origin' : Text) :
    (read text origin').result = .ok d := by
  obtain ⟨d', hd'⟩ := read_eq_ok_iff.mpr (read_eq_ok_iff.mp ⟨d, h⟩)
  have heq : d' = d := by
    apply Dictionary.ext_get?
    intro name
    rw [get?_of_read hd', get?_of_read h]
  rw [hd', heq]

end PatternFile

end Grok
