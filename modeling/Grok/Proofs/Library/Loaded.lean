import Grok.Library.Load
import Grok.Proofs.Expansion.Path
import Grok.Proofs.Library.Sources
import Grok.Proofs.PatternFile.Printing
import Grok.Proofs.Template.Cut

namespace Grok

theorem Template.ofText_placeholder {p : Placeholder} (hp : p.Valid) :
    ofText (Placeholder.written p.body) = ⟨[], [(p.body, [])]⟩ := by
  have hcut := ofText_written hp.closing_not_mem []
  rwa [List.append_nil, ofText_nil] at hcut

namespace Dictionary

theorem expand_placeholder {d : Dictionary} {p : Placeholder} {definition : Text} (hp : p.Valid)
    (hdef : d.get? p.name = some definition) (limit : Nat) :
    d.expand limit (Placeholder.written p.body) =
      if limit = 0 then .error (.tooDeep 0
        ⟨.expression (Placeholder.written p.body), Placeholder.written p.body⟩)
      else (d.expandWithin limit [p.name] definition).map p.wrap := by
  rw [expand, expandWithin_eq, Template.ofText_placeholder hp]
  split_ifs with hlimit
  · have hfault : Occurrence.Fault d limit ⟨[], Placeholder.written p.body, p.body⟩
        (.tooDeep limit _) :=
      .tooDeep hp rfl (mem_names_of_get? hdef) List.not_mem_nil (Nat.le_of_eq hlimit)
    rw [expandHoles_of_fault hfault, hlimit]
    rfl
  · have henters : Occurrence.Enters d limit ⟨[], Placeholder.written p.body, p.body⟩ p definition :=
      ⟨hp, rfl, hdef, List.not_mem_nil, Nat.pos_of_ne_zero hlimit⟩
    rw [expandHoles_of_enters henters, expandHoles_nil]
    cases d.expandWithin limit [p.name] definition with
    | error e => rfl
    | ok inner => simp [Except.map]

end Dictionary

namespace Library

open PatternFile

inductive Loaded : Dictionary → Prop
  | text {text origin : Text} {d : Dictionary} (h : (PatternFile.read text origin).result = .ok d) :
      Loaded d
  | file {tree : FileTree} {path : Path} {d : Dictionary} (h : (ofFile tree path).result = .ok d) :
      Loaded d
  | directory {tree : FileTree} {path : Path} {d : Dictionary}
      (h : (ofDirectory tree path).result = .ok d) : Loaded d
  | builtin {d : Dictionary} (h : builtin.result = .ok d) : Loaded d
  | config {config : Config} {tree : FileTree} {d : Dictionary}
      (h : (load config tree).result = .ok d) : Loaded d

variable {config : Config} {tree : FileTree} {directory path : Path} {visits : List FileTree.Visit}
  {d d' own : Dictionary}

theorem writable_merge (h : ∀ entry ∈ d.entries, Writable entry)
    (hown : ∀ entry ∈ own.entries, Writable entry) :
    ∀ entry ∈ (d.merge own).entries, Writable entry := by
  rintro ⟨name, definition⟩ hentry
  rw [Dictionary.mem_entries_iff, Dictionary.get?_merge, Option.or_eq_some_iff] at hentry
  rcases hentry with hentry | ⟨-, hentry⟩
  · exact hown _ (Dictionary.mem_entries_iff.mpr hentry)
  · exact h _ (Dictionary.mem_entries_iff.mpr hentry)

theorem writable_readFile {file : List Path × ByteArray} (h : readFile directory file = .ok own) :
    ∀ entry ∈ own.entries, Writable entry := by
  obtain ⟨text, -, hread⟩ := readFile_eq_ok_iff.mp h
  exact writable_of_read hread

theorem writable_readVisits (hd : ∀ entry ∈ d.entries, Writable entry)
    (h : (readVisits directory d visits).result = .ok d') :
    ∀ entry ∈ d'.entries, Writable entry := by
  induction visits generalizing d with
  | nil =>
    cases h
    exact hd
  | cons visit rest ih =>
    cases visit with
    | broken => cases h
    | file path bytes =>
      rw [result_readVisits_file] at h
      cases hread : readFile path ([], bytes) with
      | error e =>
        rw [hread] at h
        cases h
      | ok own =>
        rw [hread] at h
        exact ih (writable_merge hd (writable_readFile hread)) h

theorem writable_ofFile (h : (ofFile tree path).result = .ok d) :
    ∀ entry ∈ d.entries, Writable entry := by
  rw [ofFile] at h
  split at h
  · cases h
  · exact writable_of_read h

theorem writable_empty : ∀ entry ∈ (∅ : Dictionary).entries, Writable entry :=
  List.forall_mem_nil _

theorem writable_ofDirectory (h : (ofDirectory tree path).result = .ok d) :
    ∀ entry ∈ d.entries, Writable entry := by
  cases hwalk : tree.walk? path with
  | none =>
    rw [ofDirectory, hwalk] at h
    cases h
  | some visits =>
    rw [result_ofDirectory_of_walk hwalk] at h
    exact writable_readVisits writable_empty h

theorem writable_builtinPart (h : (builtinPart config).result = .ok d) :
    ∀ entry ∈ d.entries, Writable entry := by
  rw [builtinPart] at h
  split_ifs at h
  · exact writable_of_read h
  · cases h
    exact writable_empty

theorem writable_directoryPart (h : (directoryPart config tree).result = .ok d) :
    ∀ entry ∈ d.entries, Writable entry := by
  rw [directoryPart] at h
  split at h
  · cases h
    exact writable_empty
  · exact writable_ofDirectory h

theorem writable_load (h : (load config tree).result = .ok d) :
    ∀ entry ∈ d.entries, Writable entry := by
  obtain ⟨base, hbase⟩ := exists_builtinPart config
  cases hown : (directoryPart config tree).result with
  | error e =>
    rw [load_of_error hown] at h
    cases h
  | ok own =>
    rw [(load_of_parts hbase hown).1] at h
    split_ifs at h
    cases h
    exact writable_merge (writable_builtinPart hbase) (writable_directoryPart hown)

theorem loaded_iff_writable : Loaded d ↔ ∀ entry ∈ d.entries, Writable entry := by
  constructor
  · intro h
    cases h with
    | text h => exact writable_of_read h
    | file h => exact writable_ofFile h
    | directory h => exact writable_ofDirectory h
    | builtin h => exact writable_of_read h
    | config h => exact writable_load h
  · intro h
    have hread : (PatternFile.read (write d) []).result = .ok d :=
      read_of_isWritten h (.refl _) (.inl (write_eq_written d))
    exact .text hread

/-- A pattern of a dictionary that is loaded has a name and a definition that can stand on a line. Its
name, alone or with the name of a group, makes one placeholder that is read as these names. No place
where it is written is told to be invalid, and the pattern is never told to be undefined: alone, the
placeholder expands to the group around the expanded definition, unless the limit rules out any. -/
theorem loaded_pattern_can_be_referred_to {name definition : Text} (hloaded : Loaded d)
    (hdef : d.get? name = some definition) :
    name.IsWord ∧ definition ≠ [] ∧ '\n' ∉ definition ∧ definition.Tight ∧
    ∀ group : Option Text, (∀ g, group = some g → g.IsIdentifier) →
      let p : Placeholder := ⟨name, group⟩
      Template.ofText (Placeholder.written p.body) = ⟨[], [(p.body, [])]⟩ ∧
      Placeholder.parse? p.body = some p ∧
      (∀ limit expression origin place,
        d.expand limit expression ≠
          .error (.invalidPlaceholder ⟨origin, Placeholder.written p.body⟩) ∧
        d.expand limit expression ≠ .error (.undefinedPattern name place)) ∧
      ∀ limit, d.expand limit (Placeholder.written p.body) =
        if limit = 0 then .error (.tooDeep 0
          ⟨.expression (Placeholder.written p.body), Placeholder.written p.body⟩)
        else (d.expandWithin limit [name] definition).map p.wrap := by
  have hentry := Dictionary.mem_entries_iff.mpr hdef
  obtain ⟨hname, hne, hline, htight⟩ := loaded_iff_writable.mp hloaded _ hentry
  refine ⟨hname, hne, hline, htight, fun group hgroup => ?_⟩
  have hp : (Placeholder.mk name group).Valid := Placeholder.valid_iff.mpr ⟨hname, hgroup⟩
  refine ⟨Template.ofText_placeholder hp, Placeholder.parse?_complete hp, ?_, ?_⟩
  · intro limit expression origin place
    have hnames := Dictionary.mem_names_of_get? hdef
    exact ⟨Dictionary.expand_ne_invalidPlaceholder hp origin,
      Dictionary.expand_ne_undefinedPattern hnames place⟩
  · exact Dictionary.expand_placeholder hp hdef

theorem name_with_leading_digit_and_group_can_be_referred_to :
    let file : FileNode := .file "9_  %{B} x\t\r\n#\nB b\nB c\u3000".toUTF8
    let tree : FileTree := ⟨.directory [("p", .directory [("f", file)])], []⟩
    ∃ d, (load { patternsDir := some "p", builtinPatterns := false } tree).result = .ok d ∧
      d.get? "9_" = some ("%{B} x" : Text) ∧
      Template.ofText "%{9_:_1}" = ⟨[], [("9_:_1", [])]⟩ ∧
      Placeholder.parse? "9_:_1" = some ⟨"9_", some "_1"⟩ ∧
      d.expand 2 "%{9_:_1}" = .ok "(?P<_1>(?:c) x)" ∧
      d.expand 0 "%{9_:_1}" = .error (.tooDeep 0 ⟨.expression "%{9_:_1}", "%{9_:_1}"⟩) := by
  intro file tree
  have hload : (load { patternsDir := some "p", builtinPatterns := false } tree).result =
      .ok (.ofList [("9_", "%{B} x"), ("B", "c")]) := by cbv
  have hdef : (Dictionary.ofList [("9_", "%{B} x"), ("B", "c")]).get? "9_" =
      some ("%{B} x" : Text) := by decide
  obtain ⟨-, -, -, -, hgroup⟩ := loaded_pattern_can_be_referred_to (.config hload) hdef
  have hone : Text.IsIdentifier "_1" := Text.isGroupName_iff.mp (by decide)
  obtain ⟨hcut, hparse, -, hexpand⟩ := hgroup (some "_1") (by simpa using hone)
  refine ⟨_, hload, hdef, hcut, hparse, (hexpand 2).trans ?_, hexpand 0⟩
  cbv

end Library

end Grok
