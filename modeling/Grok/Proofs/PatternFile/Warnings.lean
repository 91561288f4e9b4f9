import Grok.Proofs.Dictionary.Size
import Grok.Proofs.PatternFile.Grammar
import Grok.Proofs.Report

namespace Grok.PatternFile

def Names (line name : Text) : Prop := ∃ definition, Defines line name definition

def IsDefinition (line : Text) : Prop := ∃ name, Names line name

def definedName? (line : Text) : Option Text :=
  match Line.ofText line with
  | .definition name _ => some name
  | _ => none

/-- The line with the number, counted from that of the first line, defines a name that is known or that
a line above it defines. -/
def Redefines (d : Dictionary) (number : Nat) (lines : List Text) (n : Nat) (name : Text) : Prop :=
  ∃ before line after, lines = before ++ line :: after ∧ n = number + before.length ∧
    Names line name ∧ (name ∈ d.names ∨ ∃ earlier ∈ before, Names earlier name)

variable {line name own definition origin text : Text} {lines rest : List Text}
  {d d' known : Dictionary} {number n : Nat}

theorem definedName?_eq_some_iff : definedName? line = some name ↔ Names line name := by
  simp only [Names, ← ofText_eq_definition_iff]
  unfold definedName?
  cases Line.ofText line <;> simp

theorem isDefinition_iff : IsDefinition line ↔ (definedName? line).isSome = true := by
  simp only [IsDefinition, ← definedName?_eq_some_iff, Option.isSome_iff_exists]

instance (line : Text) : Decidable (IsDefinition line) := decidable_of_iff _ isDefinition_iff.symm

theorem names_iff_of_definition (h : Line.ofText line = .definition own definition) :
    Names line name ↔ name = own := by
  rw [← definedName?_eq_some_iff, definedName?, h, Option.some.injEq, eq_comm]

theorem not_names_of_skipped (h : Line.ofText line = .skipped) : ¬Names line name := by
  rw [← definedName?_eq_some_iff, definedName?, h]
  simp

theorem readLines_skipped (h : Line.ofText line = .skipped) :
    readLines origin d number (line :: rest) = readLines origin d (number + 1) rest := by
  simp only [readLines, h]

theorem events_readLines_definition (h : Line.ofText line = .definition name definition) :
    (readLines origin d number (line :: rest)).events =
      (if name ∈ d.names then [.lineRedefined origin number name] else []) ++
        (readLines origin (d.insert name definition) (number + 1) rest).events := by
  simp only [readLines, h, Dictionary.contains_iff]
  split_ifs <;> rfl

theorem redefines_cons (hknown : ∀ name, name ∈ known.names ↔ name ∈ d.names ∨ Names line name) :
    Redefines d number (line :: rest) n name ↔
      (n = number ∧ Names line name ∧ name ∈ d.names) ∨
        Redefines known (number + 1) rest n name := by
  constructor
  · rintro ⟨before, own, after, hlines, rfl, hown, hearlier⟩
    cases before with
    | nil =>
      obtain ⟨rfl, -⟩ := List.cons.inj hlines
      exact .inl ⟨rfl, hown, hearlier.resolve_right (by simp)⟩
    | cons first before =>
      obtain ⟨rfl, rfl⟩ := List.cons.inj hlines
      refine .inr ⟨before, own, after, rfl, ?_, hown, ?_⟩
      · rw [List.length_cons]
        omega
      · rw [hknown, or_assoc]
        simpa using hearlier
  · rintro (⟨rfl, hown, hmem⟩ | ⟨before, own, after, rfl, rfl, hown, hearlier⟩)
    · exact ⟨[], line, rest, rfl, rfl, hown, .inl hmem⟩
    · refine ⟨line :: before, own, after, rfl, ?_, hown, ?_⟩
      · rw [List.length_cons]
        omega
      · rw [hknown, or_assoc] at hearlier
        simpa using hearlier

theorem redefines_cons_skipped (h : Line.ofText line = .skipped) :
    Redefines d number (line :: rest) n name ↔ Redefines d (number + 1) rest n name := by
  have hknown (name : Text) : name ∈ d.names ↔ name ∈ d.names ∨ Names line name := by
    simp [not_names_of_skipped h]
  rw [redefines_cons hknown]
  simp [not_names_of_skipped h]

theorem redefines_cons_definition (h : Line.ofText line = .definition own definition) :
    Redefines d number (line :: rest) n name ↔
      (n = number ∧ name = own ∧ own ∈ d.names) ∨
        Redefines (d.insert own definition) (number + 1) rest n name := by
  have hknown (name : Text) : name ∈ (d.insert own definition).names ↔
      name ∈ d.names ∨ Names line name := by
    rw [Dictionary.mem_names_insert, names_iff_of_definition h, or_comm]
  rw [redefines_cons hknown, names_iff_of_definition h]
  apply or_congr_left
  apply and_congr_right'
  apply and_congr_right
  rintro rfl
  rfl

theorem Redefines.number_le (h : Redefines d number lines n name) : number ≤ n := by
  obtain ⟨before, -, -, -, rfl, -⟩ := h
  exact Nat.le_add_right number before.length

theorem exists_told_of_readLines (h : (readLines origin d number lines).result = .ok d') :
    ∃ told : List (Nat × Text),
      (readLines origin d number lines).events =
        told.map (fun entry => .lineRedefined origin entry.1 entry.2) ∧
      told.Pairwise (fun a b => a.1 < b.1) ∧
      ∀ n name, (n, name) ∈ told ↔ Redefines d number lines n name := by
  induction lines generalizing d number with
  | nil => exact ⟨[], rfl, .nil, fun n name => by simp [Redefines]⟩
  | cons line rest ih =>
    cases hline : Line.ofText line with
    | skipped =>
      rw [result_readLines_skipped hline] at h
      obtain ⟨told, hevents, hsorted, hmem⟩ := ih h
      refine ⟨told, by rw [readLines_skipped hline, hevents], hsorted, fun n name => ?_⟩
      rw [redefines_cons_skipped hline, hmem]
    | definition own definition =>
      rw [result_readLines_definition hline] at h
      obtain ⟨told, hevents, hsorted, hmem⟩ := ih h
      rw [events_readLines_definition hline, hevents]
      by_cases hown : own ∈ d.names
      · refine ⟨(number, own) :: told, by rw [if_pos hown]; rfl, ?_, fun n name => ?_⟩
        · refine List.pairwise_cons.mpr ⟨?_, hsorted⟩
          rintro ⟨n, name⟩ htold
          exact ((hmem n name).mp htold).number_le
        · rw [redefines_cons_definition hline, ← hmem, List.mem_cons, Prod.mk.injEq]
          simp [hown]
      · refine ⟨told, by rw [if_neg hown]; rfl, hsorted, fun n name => ?_⟩
        rw [redefines_cons_definition hline, ← hmem]
        simp [hown]
    | malformed problem =>
      rw [result_readLines_malformed hline] at h
      cases h

theorem length_events_readLines (h : (readLines origin d number lines).result = .ok d') :
    (readLines origin d number lines).events.length + d'.size =
      d.size + lines.countP (IsDefinition ·) := by
  induction lines generalizing d number with
  | nil =>
    cases h
    simp [readLines, pure, Report.ofResult]
  | cons line rest ih =>
    cases hline : Line.ofText line with
    | skipped =>
      rw [result_readLines_skipped hline] at h
      have hnone : ¬IsDefinition line := by
        rintro ⟨name, hname⟩
        exact not_names_of_skipped hline hname
      rw [readLines_skipped hline, ih h, List.countP_cons_of_neg (by simpa using hnone)]
    | definition own definition =>
      rw [result_readLines_definition hline] at h
      have hone : IsDefinition line := ⟨own, (names_iff_of_definition hline).mpr rfl⟩
      have hrest := ih h
      rw [Dictionary.size_insert] at hrest
      rw [events_readLines_definition hline, List.countP_cons_of_pos (by simpa using hone),
        List.length_append]
      split_ifs at hrest ⊢ with hown
      · rw [List.length_singleton]
        omega
      · rw [List.length_nil]
        omega
    | malformed problem =>
      rw [result_readLines_malformed hline] at h
      cases h

theorem isWarning_of_mem_readLines (origin : Text) (d : Dictionary) (number : Nat) (lines : List Text) :
    ∀ event ∈ (readLines origin d number lines).events, event.isWarning = true := by
  induction lines generalizing d number with
  | nil => exact List.forall_mem_nil _
  | cons line rest ih =>
    rw [readLines]
    split
    · exact ih d (number + 1)
    · exact List.forall_mem_nil _
    · split_ifs
      · apply Report.forall_events_andThen
        · exact List.forall_mem_singleton.mpr rfl
        · exact fun _ => ih _ (number + 1)
      · exact ih _ (number + 1)

theorem warnings_read (text origin : Text) :
    (read text origin).warnings = (read text origin).events :=
  List.filter_eq_self.mpr (isWarning_of_mem_readLines origin ∅ 1 text.lines)

theorem length_warnings_read (h : (read text origin).result = .ok d) :
    (read text origin).warnings.length + d.size = text.lines.countP (IsDefinition ·) := by
  rw [warnings_read, read, length_events_readLines h]
  exact Nat.zero_add _

theorem redefines_empty : Redefines ∅ 1 lines n name ↔ ∃ before line after,
    lines = before ++ line :: after ∧ n = before.length + 1 ∧ Names line name ∧
      ∃ earlier ∈ before, Names earlier name := by
  have hnone : name ∉ (∅ : Dictionary).names := List.not_mem_nil
  simp only [Redefines, hnone, false_or, Nat.add_comm 1]

end Grok.PatternFile
