import Grok.Proofs.PatternFile.Grammar
import Grok.Proofs.Text.Line

namespace Grok.PatternFile

structure Writable (entry : Text × Text) : Prop where
  name : entry.1.IsWord
  ne_nil : entry.2 ≠ []
  oneLine : '\n' ∉ entry.2
  tight : entry.2.Tight

def entryLine (entry : Text × Text) : Text := entry.1 ++ ' ' :: entry.2

def written (entries : List (Text × Text)) : Text :=
  entries.flatMap fun entry => entryLine entry ++ ['\n']

def IsWritten (entries : List (Text × Text)) (text : Text) : Prop :=
  text = written entries ∨ text ++ ['\n'] = written entries

variable {d : Dictionary} {entry : Text × Text} {entries : List (Text × Text)}
  {name definition text origin : Text}

theorem write_eq_written (d : Dictionary) : write d = written d.entries := rfl

namespace Writable

theorem defines (h : Writable entry) : Defines (entryLine entry) entry.1 entry.2 :=
  ⟨[], [' '], [], by simp [entryLine], by simp [Text.Blank], by simp [Text.Blank, isBlank],
    by simp [Text.Blank], by simp, h.name, h.ne_nil, h.tight⟩

theorem lineFeed_not_mem (h : Writable entry) : '\n' ∉ entryLine entry := by
  intro hmem
  rcases List.mem_append.mp hmem with hname | hdef
  · have hblank := h.name.isBlank_eq_false _ hname
    exact absurd hblank (by decide)
  · rcases List.mem_cons.mp hdef with hspace | hdef
    · exact absurd hspace (by decide)
    · exact h.oneLine hdef

theorem getLast?_ne (h : Writable entry) : (entryLine entry).getLast? ≠ some '\r' := by
  intro hlast
  rw [entryLine, List.getLast?_append_of_ne_nil _ (List.cons_ne_nil _ _),
    List.getLast?_cons_of_ne_nil h.ne_nil] at hlast
  have hblank := h.tight.last '\r' hlast
  exact absurd hblank (by decide)

theorem definitionIn_entryLine (h : Writable entry) :
    definitionIn name (entryLine entry) = Dictionary.definitionIn name entry := by
  simp [definitionIn, ofText_eq_definition_iff.mpr h.defines, Dictionary.definitionIn]

end Writable

theorem lines_written_append (h : ∀ entry ∈ entries, Writable entry) (rest : Text) :
    (written entries ++ rest).lines = entries.map entryLine ++ rest.lines := by
  induction entries with
  | nil => rfl
  | cons entry more ih =>
    rw [List.forall_mem_cons] at h
    have hsplit : written (entry :: more) ++ rest =
        entryLine entry ++ '\n' :: (written more ++ rest) := by
      simp [written]
    rw [hsplit, Text.lines_append_lineFeed h.1.lineFeed_not_mem h.1.getLast?_ne, ih h.2]
    rfl

theorem lines_of_isWritten (h : ∀ entry ∈ entries, Writable entry)
    (htext : IsWritten entries text) : text.lines = entries.map entryLine := by
  rcases htext with rfl | htext
  · simpa [Text.lines] using lines_written_append h []
  · rcases List.eq_nil_or_concat' entries with rfl | ⟨first, last, rfl⟩
    · simp [written] at htext
    · have hsplit : text = written first ++ entryLine last := by
        rw [written, List.flatMap_append, List.flatMap_singleton, ← List.append_assoc] at htext
        exact List.append_cancel_right htext
      have hlast : Writable last := h last (by simp)
      have hne : entryLine last ≠ [] := by simp [entryLine]
      have hfirst : ∀ entry ∈ first, Writable entry := fun entry he => h entry (by simp [he])
      rw [hsplit, lines_written_append hfirst, Text.lines_of_lineFeed_not_mem hlast.lineFeed_not_mem hne,
        List.map_append]
      rfl

theorem read_of_isWritten (hwritable : ∀ entry ∈ d.entries, Writable entry)
    (hperm : entries.Perm d.entries) (htext : IsWritten entries text) :
    (read text origin).result = .ok d := by
  have hentries : ∀ entry ∈ entries, Writable entry :=
    fun entry he => hwritable entry (hperm.mem_iff.mp he)
  have hlines := lines_of_isWritten hentries htext
  have hgood : ∀ line ∈ text.lines, Good line := by
    intro line hline
    rw [hlines] at hline
    obtain ⟨entry, he, rfl⟩ := List.mem_map.mp hline
    exact .inr (.inr ⟨_, _, (hentries entry he).defines⟩)
  obtain ⟨d', hd'⟩ : ∃ d', (read text origin).result = .ok d' := read_eq_ok_iff.mpr hgood
  have hsame : d' = d := by
    apply Dictionary.ext_get?
    intro name
    have hsame : ∀ entry ∈ entries.reverse,
        (definitionIn name ∘ entryLine) entry = Dictionary.definitionIn name entry :=
      fun entry he => (hentries entry (List.mem_reverse.mp he)).definitionIn_entryLine
    rw [get?_of_read hd', hlines, ← List.map_reverse, List.findSome?_map, ← List.head?_filterMap,
      List.filterMap_congr hsame, List.head?_filterMap,
      Dictionary.findSome?_entries ((List.reverse_perm _).trans hperm)]
  rw [hd', hsame]

theorem writable_of_read (h : (read text origin).result = .ok d) :
    ∀ entry ∈ d.entries, Writable entry := by
  rintro ⟨name, definition⟩ hmem
  obtain ⟨before, line, after, hlines, ⟨start, gap, stop, rfl, -, -, -, -, hname, hne, htight⟩, -⟩ :=
    (get?_of_read_eq_some_iff h).mp (Dictionary.mem_entries_iff.mp hmem)
  refine ⟨hname, hne, ?_, htight⟩
  intro hfeed
  have hline : start ++ (name ++ (gap ++ definition)) ++ stop ∈ text.lines := by
    rw [hlines]
    exact List.mem_append_right _ List.mem_cons_self
  apply Text.lineFeed_not_mem hline
  simp only [List.mem_append]
  exact .inl (.inr (.inr (.inr hfeed)))

/-- A dictionary of names and definitions that can stand on a line each is read from any text that
has these lines, in any order. All dictionaries that are read are such, so that reading, writing and
reading gives the dictionary of the first reading. -/
theorem written_dictionary_reads_back (d : Dictionary) :
    ((∀ entry ∈ d.entries, Writable entry) → ∀ entries text, entries.Perm d.entries →
      IsWritten entries text → ∀ origin, (read text origin).result = .ok d) ∧
    ∀ source origin, (read source origin).result = .ok d →
      (∀ entry ∈ d.entries, Writable entry) ∧
        ∀ origin', (read (write d) origin').result = .ok d := by
  constructor
  · intro hwritable entries text hperm htext origin
    exact read_of_isWritten hwritable hperm htext
  · intro source origin hread
    have hwritable := writable_of_read hread
    refine ⟨hwritable, fun origin' => ?_⟩
    exact read_of_isWritten hwritable (.refl _) (.inl (write_eq_written d))

theorem definitions_with_inner_separators :
    let d : Dictionary := .ofList [("A_1", "%{B:b}  ="), ("B", "x\u2028#\ry")]
    let entries : List (Text × Text) := [("B", "x\u2028#\ry"), ("A_1", "%{B:b}  =")]
    let text : Text := "B x\u2028#\ry\nA_1 %{B:b}  ="
    (∀ entry ∈ d.entries, Writable entry) ∧ entries.Perm d.entries ∧ IsWritten entries text ∧
      (read text "f").result = .ok d ∧ (read (write d) "g").result = .ok d := by
  intro d entries text
  have hentries : d.entries = entries.reverse := by decide
  have hfirst : Writable ("A_1", "%{B:b}  =") :=
    ⟨Text.isPatternName_iff.mp (by decide), by decide, by decide, by simp [isBlank],
      by simp [isBlank]⟩
  have hsecond : Writable ("B", "x\u2028#\ry") :=
    ⟨Text.isPatternName_iff.mp (by decide), by decide, by decide, by simp [isBlank],
      by simp [isBlank]⟩
  have hwritable : ∀ entry ∈ d.entries, Writable entry := by
    intro entry he
    rw [hentries, List.mem_reverse] at he
    rcases List.mem_pair.mp he with rfl | rfl
    · exact hsecond
    · exact hfirst
  have hperm : entries.Perm d.entries := by
    rw [hentries]
    exact (List.reverse_perm entries).symm
  have htext : IsWritten entries text := .inr (by decide)
  obtain ⟨hread, hagain⟩ := written_dictionary_reads_back d
  have hok := hread hwritable entries text hperm htext "f"
  exact ⟨hwritable, hperm, htext, hok, (hagain text "f" hok).2 "g"⟩

end Grok.PatternFile
