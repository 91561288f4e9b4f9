import Grok.PatternFile
import Grok.Proofs.Dictionary.Lookup
import Grok.Proofs.Text.Trim

namespace Grok.PatternFile

def IsComment (line : Text) : Prop :=
  ∃ before rest : Text, line = before ++ '#' :: rest ∧ before.Blank

/-- Without the blanks at its ends, the line is the name, one or more blanks, and the definition. -/
def Defines (line name definition : Text) : Prop :=
  ∃ before gap after : Text, line = before ++ (name ++ (gap ++ definition)) ++ after ∧
    before.Blank ∧ gap.Blank ∧ after.Blank ∧ gap ≠ [] ∧
    name.IsWord ∧ definition ≠ [] ∧ definition.Tight

def Good (line : Text) : Prop :=
  line.Blank ∨ IsComment line ∨ ∃ name definition, Defines line name definition

def namePart (core : Text) : Text := core.takeWhile (!isBlank ·)

def definitionPart (core : Text) : Text := (core.dropWhile (!isBlank ·)).dropWhile isBlank

variable {line core name gap definition origin : Text} {lines : List Text} {d : Dictionary}
  {number : Nat}

theorem ofText_eq (line : Text) : Line.ofText line =
    if line.trim = [] ∨ line.trim.head? = some '#' then .skipped
    else if definitionPart line.trim = [] then .malformed (.missingDefinition line.trim)
    else if isPatternName (namePart line.trim) then
      .definition (namePart line.trim) (definitionPart line.trim)
    else .malformed (.illegalName (namePart line.trim)) := by
  simp only [Line.ofText, Bool.or_eq_true, decide_eq_true_eq]
  rfl

theorem exists_gap (hcore : core.Tight) (hdef : definitionPart core ≠ []) :
    ∃ gap : Text, core = namePart core ++ (gap ++ definitionPart core) ∧ gap.Blank ∧ gap ≠ [] ∧
      (definitionPart core).Tight := by
  have hparts : core = namePart core ++
      ((core.dropWhile (!isBlank ·)).takeWhile isBlank ++ definitionPart core) := by
    rw [definitionPart, List.takeWhile_append_dropWhile, namePart, List.takeWhile_append_dropWhile]
  refine ⟨_, hparts, fun c hc => List.mem_takeWhile_imp hc, ?_, Text.head_dropWhile _, ?_⟩
  · intro hgap
    cases hrest : core.dropWhile (!isBlank ·) with
    | nil => exact hdef (by simp [definitionPart, hrest])
    | cons c rest =>
      have hc := Text.head_dropWhile core c (by rw [hrest, List.head?_cons])
      rw [Bool.not_eq_eq_eq_not, Bool.not_false] at hc
      rw [hrest, List.takeWhile_cons, if_pos hc] at hgap
      cases hgap
  · intro c hc
    apply hcore.last
    rw [hparts, ← List.append_assoc, List.getLast?_append, hc, Option.some_or]

theorem definitionPart_eq_nil_iff (hcore : core.Tight) :
    definitionPart core = [] ↔ ∀ c ∈ core, isBlank c = false := by
  have hall : core.dropWhile (!isBlank ·) = [] ↔ ∀ c ∈ core, isBlank c = false := by
    simp [List.dropWhile_eq_nil_iff]
  rw [← hall, definitionPart, List.dropWhile_eq_nil_iff]
  constructor
  · intro h
    -- otherwise the trimmed line would end in a blank
    by_contra hne
    obtain ⟨c, hc⟩ := Option.ne_none_iff_exists'.mp (mt List.getLast?_eq_none_iff.mp hne)
    have hlast : core.getLast? = some c := by
      rw [← List.takeWhile_append_dropWhile (p := (!isBlank ·)) (l := core), List.getLast?_append, hc,
        Option.some_or]
    have hblank := h c (List.mem_of_getLast? hc)
    rw [hcore.last c hlast] at hblank
    cases hblank
  · intro h
    simp [h]

theorem namePart_append (hname : ∀ c ∈ name, isBlank c = false) (hgap : gap.Blank)
    (hne : gap ≠ []) : namePart (name ++ (gap ++ definition)) = name := by
  apply Text.takeWhile_append_of_boundary
  · intro c hc
    simpa using hname c hc
  · intro c hc
    rw [List.head?_append_of_ne_nil _ hne] at hc
    simpa using hgap c (List.mem_of_mem_head? hc)

theorem definitionPart_append (hname : ∀ c ∈ name, isBlank c = false) (hgap : gap.Blank)
    (hne : gap ≠ []) (hdef : definition.Tight) :
    definitionPart (name ++ (gap ++ definition)) = definition := by
  rw [definitionPart, Text.dropWhile_append_of_boundary,
    Text.dropWhile_append_of_boundary hgap hdef.first]
  · intro c hc
    simpa using hname c hc
  · intro c hc
    rw [List.head?_append_of_ne_nil _ hne] at hc
    simpa using hgap c (List.mem_of_mem_head? hc)

theorem head_trim_iff_isComment : line.trim.head? = some '#' ↔ IsComment line := by
  constructor
  · intro h
    obtain ⟨before, after, hline, hbefore, -⟩ := Text.exists_eq_trim_append line
    obtain ⟨rest, hrest⟩ := List.head?_eq_some_iff.mp h
    exact ⟨before, rest ++ after, by rw [hline, hrest]; simp, hbefore⟩
  · rintro ⟨before, rest, rfl, hbefore⟩
    have hsign : isBlank '#' = false := by decide
    rw [Text.head?_trim, Text.trimStart,
      Text.dropWhile_append_of_boundary hbefore (by simp [hsign]), List.head?_cons]

theorem skips_iff : line.trim = [] ∨ line.trim.head? = some '#' ↔ line.Blank ∨ IsComment line := by
  rw [Text.trim_eq_nil_iff, head_trim_iff_isComment]

theorem defines_iff : Defines line name definition ↔
    ∃ gap : Text, line.trim = name ++ (gap ++ definition) ∧ gap.Blank ∧ gap ≠ [] ∧ name.IsWord ∧
      definition ≠ [] ∧ definition.Tight := by
  constructor
  · rintro ⟨before, gap, after, rfl, hbefore, hgap, hafter, hne, hname, hdef, htight⟩
    refine ⟨gap, Text.trim_append ⟨?_, ?_⟩ hbefore hafter, hgap, hne, hname, hdef, htight⟩
    · intro c hc
      rw [List.head?_append_of_ne_nil _ hname.1] at hc
      exact hname.isBlank_eq_false c (List.mem_of_mem_head? hc)
    · intro c hc
      rw [← List.append_assoc, List.getLast?_append_of_ne_nil _ hdef] at hc
      exact htight.last c hc
  · rintro ⟨gap, htrim, hgap, hrest⟩
    obtain ⟨before, after, hline, hbefore, hafter⟩ := Text.exists_eq_trim_append line
    rw [htrim] at hline
    exact ⟨before, gap, after, hline, hbefore, hgap, hafter, hrest⟩

theorem Defines.not_skips (h : Defines line name definition) : ¬(line.Blank ∨ IsComment line) := by
  rw [← skips_iff]
  obtain ⟨gap, htrim, -, -, hname, -, -⟩ := defines_iff.mp h
  rw [htrim]
  rintro (hnil | hsign)
  · exact hname.1 (List.append_eq_nil_iff.mp hnil).1
  · rw [List.head?_append_of_ne_nil _ hname.1] at hsign
    have hword := Text.isWordChar_iff.mpr (hname.2 '#' (List.mem_of_mem_head? hsign))
    exact absurd hword (by decide)

theorem ofText_eq_skipped_iff : Line.ofText line = .skipped ↔ line.Blank ∨ IsComment line := by
  rw [ofText_eq, ← skips_iff]
  split
  next h => simpa using h
  next h =>
    simp only [h, iff_false]
    split
    · simp
    · split <;> simp

theorem ofText_eq_definition_iff :
    Line.ofText line = .definition name definition ↔ Defines line name definition := by
  constructor
  · intro h
    rw [ofText_eq] at h
    split at h
    · cases h
    · split at h
      · cases h
      · split at h
        next hdef hname =>
          cases h
          obtain ⟨gap, hcore, hgap, hne, htight⟩ := exists_gap (Text.tight_trim line) hdef
          exact defines_iff.mpr ⟨gap, hcore, hgap, hne, Text.isPatternName_iff.mp hname, hdef,
            htight⟩
        · cases h
  · intro h
    obtain ⟨gap, htrim, hgap, hne, hname, hdef, htight⟩ := defines_iff.mp h
    have hblank := hname.isBlank_eq_false
    rw [ofText_eq, if_neg (mt skips_iff.mp h.not_skips), htrim, namePart_append hblank hgap hne,
      definitionPart_append hblank hgap hne htight, if_neg hdef,
      if_pos (Text.isPatternName_iff.mpr hname)]

theorem good_iff : Good line ↔ ∀ problem, Line.ofText line ≠ .malformed problem := by
  unfold Good
  rw [← or_assoc, ← ofText_eq_skipped_iff]
  simp only [← ofText_eq_definition_iff]
  cases Line.ofText line <;> simp

theorem problem_of_no_blank (hbad : ¬Good line) (h : ∀ c ∈ line.trim, isBlank c = false) :
    Line.ofText line = .malformed (.missingDefinition line.trim) := by
  have hskips : ¬(line.Blank ∨ IsComment line) := fun hs => hbad (or_assoc.mp (.inl hs))
  rw [ofText_eq, if_neg (mt skips_iff.mp hskips),
    if_pos ((definitionPart_eq_nil_iff (Text.tight_trim line)).mpr h)]

theorem problem_of_blank (hbad : ¬Good line) {blank : Char} {rest : Text}
    (htrim : line.trim = name ++ blank :: rest) (hname : ∀ c ∈ name, isBlank c = false)
    (hblank : isBlank blank = true) : Line.ofText line = .malformed (.illegalName name) := by
  have hskips : ¬(line.Blank ∨ IsComment line) := fun hs => hbad (or_assoc.mp (.inl hs))
  have hdef : definitionPart line.trim ≠ [] := by
    rw [Ne, definitionPart_eq_nil_iff (Text.tight_trim line), htrim]
    intro hall
    rw [hall blank (by simp)] at hblank
    cases hblank
  have hpart : namePart line.trim = name := by
    rw [htrim, namePart, Text.takeWhile_append_of_boundary]
    · simpa using hname
    · simpa using hblank
  have hword : isPatternName name ≠ true := by
    intro hword
    obtain ⟨problem, hproblem⟩ := not_forall_not.mp (mt good_iff.mpr hbad)
    rw [ofText_eq, if_neg (mt skips_iff.mp hskips), if_neg hdef, hpart, if_pos hword] at hproblem
    cases hproblem
  rw [ofText_eq, if_neg (mt skips_iff.mp hskips), if_neg hdef, hpart, if_neg hword]

def definitionIn (name line : Text) : Option Text :=
  match Line.ofText line with
  | .definition n definition => if n = name then some definition else none
  | _ => none

theorem definitionIn_eq_some_iff :
    definitionIn name line = some definition ↔ Defines line name definition := by
  rw [← ofText_eq_definition_iff]
  unfold definitionIn
  split
  · simp_all
  next hline =>
    constructor
    · simp
    · exact fun h => absurd h (hline _ _)

theorem definitionIn_eq_none_iff :
    definitionIn name line = none ↔ ∀ definition, ¬Defines line name definition := by
  simp only [Option.eq_none_iff_forall_ne_some, ne_eq, definitionIn_eq_some_iff]

theorem result_readLines_skipped (h : Line.ofText line = .skipped) :
    (readLines origin d number (line :: lines)).result =
      (readLines origin d (number + 1) lines).result := by
  simp only [readLines, h]

theorem result_readLines_definition (h : Line.ofText line = .definition name definition) :
    (readLines origin d number (line :: lines)).result =
      (readLines origin (d.insert name definition) (number + 1) lines).result := by
  simp only [readLines, h]
  split <;> rfl

theorem result_readLines_malformed {problem : LineProblem}
    (h : Line.ofText line = .malformed problem) :
    (readLines origin d number (line :: lines)).result =
      .error (.patternLine origin number problem) := by
  simp only [readLines, h]
  rfl

theorem readLines_of_good (origin : Text) (d : Dictionary) (number : Nat)
    (hgood : ∀ line ∈ lines, Good line) :
    ∃ d', (readLines origin d number lines).result = .ok d' ∧
      ∀ name, d'.get? name = (lines.reverse.findSome? (definitionIn name)).or (d.get? name) := by
  induction lines generalizing d number with
  | nil => exact ⟨d, rfl, fun name => rfl⟩
  | cons line rest ih =>
    rw [List.forall_mem_cons] at hgood
    cases hline : Line.ofText line with
    | skipped =>
      obtain ⟨d', hd', hget⟩ := ih d (number + 1) hgood.2
      refine ⟨d', by rw [result_readLines_skipped hline, hd'], fun name => ?_⟩
      rw [hget, List.reverse_cons, List.findSome?_append, Option.or_assoc]
      simp [definitionIn, hline]
    | definition n definition =>
      obtain ⟨d', hd', hget⟩ := ih (d.insert n definition) (number + 1) hgood.2
      refine ⟨d', by rw [result_readLines_definition hline, hd'], fun name => ?_⟩
      rw [hget, List.reverse_cons, List.findSome?_append, Option.or_assoc, Dictionary.get?_insert]
      by_cases hname : n = name
      · simp [definitionIn, hline, hname]
      · simp [definitionIn, hline, hname, Ne.symm hname]
    | malformed problem => exact absurd hline (good_iff.mp hgood.1 problem)

theorem readLines_of_bad {problem : LineProblem} {before after : List Text}
    (hgood : ∀ line ∈ before, Good line) (hline : Line.ofText line = .malformed problem) :
    (readLines origin d number (before ++ line :: after)).result =
      .error (.patternLine origin (number + before.length) problem) := by
  induction before generalizing d number with
  | nil => exact result_readLines_malformed hline
  | cons first rest ih =>
    rw [List.forall_mem_cons] at hgood
    have hnumber : number + (first :: rest).length = number + 1 + rest.length := by
      rw [List.length_cons]
      omega
    rw [hnumber, List.cons_append]
    cases hfirst : Line.ofText first with
    | skipped => rw [result_readLines_skipped hfirst, ih hgood.2]
    | definition n definition => rw [result_readLines_definition hfirst, ih hgood.2]
    | malformed problem => exact absurd hfirst (good_iff.mp hgood.1 problem)

theorem good_of_readLines {d' : Dictionary}
    (h : (readLines origin d number lines).result = .ok d') : ∀ line ∈ lines, Good line := by
  induction lines generalizing d number with
  | nil => simp
  | cons line rest ih =>
    rw [List.forall_mem_cons, good_iff]
    cases hline : Line.ofText line with
    | skipped =>
      rw [result_readLines_skipped hline] at h
      exact ⟨by simp, ih h⟩
    | definition n definition =>
      rw [result_readLines_definition hline] at h
      exact ⟨by simp, ih h⟩
    | malformed problem =>
      rw [result_readLines_malformed hline] at h
      cases h

variable {text : Text}

theorem read_of_bad {problem : LineProblem} {before after : List Text}
    (hlines : text.lines = before ++ line :: after) (hgood : ∀ line ∈ before, Good line)
    (hline : Line.ofText line = .malformed problem) :
    (read text origin).result = .error (.patternLine origin (before.length + 1) problem) := by
  rw [read, hlines, readLines_of_bad hgood hline, Nat.add_comm]

theorem read_eq_ok_iff :
    (∃ d, (read text origin).result = .ok d) ↔ ∀ line ∈ text.lines, Good line := by
  constructor
  · rintro ⟨d, hd⟩
    exact good_of_readLines hd
  · intro hgood
    obtain ⟨d, hd, -⟩ := readLines_of_good origin ∅ 1 hgood
    exact ⟨d, hd⟩

theorem get?_of_read (h : (read text origin).result = .ok d) (name : Text) :
    d.get? name = text.lines.reverse.findSome? (definitionIn name) := by
  have hgood := good_of_readLines h
  obtain ⟨d', hd', hget⟩ := readLines_of_good origin ∅ 1 hgood
  obtain rfl : d' = d := Except.ok.inj (hd'.symm.trans h)
  rw [hget, Dictionary.get?_empty, Option.or_none]

theorem get?_of_read_eq_some_iff (h : (read text origin).result = .ok d) :
    d.get? name = some definition ↔
      ∃ before line after, text.lines = before ++ line :: after ∧ Defines line name definition ∧
        ∀ later ∈ after, ∀ other, ¬Defines later name other := by
  rw [get?_of_read h, findSome?_reverse_eq_some_iff]
  simp only [definitionIn_eq_some_iff, definitionIn_eq_none_iff]

theorem get?_of_read_eq_none_iff (h : (read text origin).result = .ok d) :
    d.get? name = none ↔ ∀ line ∈ text.lines, ∀ definition, ¬Defines line name definition := by
  rw [get?_of_read h, List.findSome?_eq_none_iff]
  simp only [List.mem_reverse, definitionIn_eq_none_iff]

/-- A file is read exactly if all its lines are good. Then each name has the definition on the last
line that defines it. Otherwise the first line that is not good is told, with its number and with
what is wrong with it, whatever comes after it. -/
theorem file_read_by_its_lines (text origin : Text) :
    ((∃ d, (read text origin).result = .ok d) ↔ ∀ line ∈ text.lines, Good line) ∧
    (∀ d, (read text origin).result = .ok d → ∀ name,
      (∀ definition, d.get? name = some definition ↔
        ∃ before line after, text.lines = before ++ line :: after ∧ Defines line name definition ∧
          ∀ later ∈ after, ∀ other, ¬Defines later name other) ∧
      (d.get? name = none ↔ ∀ line ∈ text.lines, ∀ definition, ¬Defines line name definition)) ∧
    ∀ before line after, text.lines = before ++ line :: after → (∀ l ∈ before, Good l) →
      ¬Good line → ∃ problem,
        (read text origin).result = .error (.patternLine origin (before.length + 1) problem) ∧
        ((∀ c ∈ line.trim, isBlank c = false) → problem = .missingDefinition line.trim) ∧
        ∀ name blank rest, line.trim = name ++ blank :: rest → (∀ c ∈ name, isBlank c = false) →
          isBlank blank = true → problem = .illegalName name := by
  refine ⟨read_eq_ok_iff, ?_, ?_⟩
  · intro d hd name
    exact ⟨fun definition => get?_of_read_eq_some_iff hd, get?_of_read_eq_none_iff hd⟩
  · intro before line after hlines hgood hbad
    obtain ⟨problem, hproblem⟩ := not_forall_not.mp (mt good_iff.mpr hbad)
    refine ⟨problem, read_of_bad hlines hgood hproblem, ?_, ?_⟩
    · intro hall
      have hmissing := problem_of_no_blank hbad hall
      rw [hproblem] at hmissing
      exact Line.malformed.inj hmissing
    · intro name blank rest htrim hname hblank
      have hillegal := problem_of_blank hbad htrim hname hblank
      rw [hproblem] at hillegal
      exact Line.malformed.inj hillegal

theorem repeated_name_before_illegal_one :
    let good : Text := "# names\n\n\u3000USER  [a-z]+ \r\nUSER #1 x"
    let text : Text := "# names\n\n\u3000USER  [a-z]+ \r\nUSER #1 x\nBAD-NAME y\nLONELY"
    (∀ line ∈ good.lines, Good line) ∧
      (∃ before line after, good.lines = before ++ line :: after ∧ Defines line "USER" "#1 x" ∧
        ∀ later ∈ after, ∀ other, ¬Defines later "USER" other) ∧
      ¬Good ("BAD-NAME y" : Text) ∧
      (read text "f").result = .error (.patternLine "f" 5 (.illegalName "BAD-NAME")) := by
  intro good text
  have hread : (read good "f").result.map (·.get? "USER") = .ok (some ("#1 x" : Text)) := by decide
  have hlines : text.lines = good.lines ++ ("BAD-NAME y" : Text) :: ["LONELY"] := by decide
  have hbad : ¬Good ("BAD-NAME y" : Text) := by
    intro h
    exact good_iff.mp h (.illegalName "BAD-NAME") (by cbv)
  cases hd : (read good "f").result with
  | error e => rw [hd] at hread; cases hread
  | ok d =>
    simp only [hd, Except.map, Except.ok.injEq] at hread
    obtain ⟨haccepts, hlookup, -⟩ := file_read_by_its_lines good "f"
    have hgood := haccepts.mp ⟨d, hd⟩
    obtain ⟨problem, hproblem, -, hillegal⟩ :=
      (file_read_by_its_lines text "f").2.2 _ _ _ hlines hgood hbad
    have hword : ∀ c ∈ ("BAD-NAME" : Text), isBlank c = false := by simp [isBlank]
    have hname : problem = .illegalName "BAD-NAME" :=
      hillegal "BAD-NAME" ' ' "y" (by cbv) hword (by decide)
    have hnumber : good.lines.length + 1 = 5 := by decide
    rw [hname, hnumber] at hproblem
    exact ⟨hgood, ((hlookup d hd "USER").1 "#1 x").mp hread, hbad, hproblem⟩

end Grok.PatternFile
