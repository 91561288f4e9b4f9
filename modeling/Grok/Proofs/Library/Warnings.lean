import Grok.Proofs.Library.Directory
import Grok.Proofs.PatternFile.Warnings

namespace Grok.Library

open FileTree FileNode

def DefinedBy (directory : Path) (files : List (List Path × ByteArray)) (name : Text) : Prop :=
  ∃ file ∈ files, ∃ own, Gives directory file own ∧ name ∈ own.names

inductive Warned (directory : Path) :
    List (List Path × ByteArray) → List (List Path × ByteArray) → List Event → Prop
  | nil {before : List (List Path × ByteArray)} : Warned directory before [] []
  | cons {before rest : List (List Path × ByteArray)} {file : List Path × ByteArray} {text : Text}
      {own : Dictionary} {names : List Text} {events : List Event}
      (hbytes : file.2 = text.encoded.toByteArray)
      (hread : (PatternFile.read text (pathOf directory file).display).result = .ok own)
      (hnodup : names.Nodup)
      (hnames : ∀ name, name ∈ names ↔ name ∈ own.names ∧ DefinedBy directory before name)
      (hrest : Warned directory (before ++ [file]) rest events) :
      Warned directory before (file :: rest)
        ((PatternFile.read text (pathOf directory file).display).warnings ++
          (names.map (.fileRedefined · (pathOf directory file).display) ++ events))

variable {directory : Path} {name text : Text} {file : List Path × ByteArray}
  {before files : List (List Path × ByteArray)} {own d d' : Dictionary} {rest : List Visit}

theorem definedBy_concat (hgives : Gives directory file own) :
    DefinedBy directory (before ++ [file]) name ↔
      DefinedBy directory before name ∨ name ∈ own.names := by
  have hfile : (∃ other, Gives directory file other ∧ name ∈ other.names) ↔ name ∈ own.names := by
    simp only [← readFile_eq_ok_iff] at hgives ⊢
    simp [hgives]
  unfold DefinedBy
  simp only [List.mem_append, List.mem_singleton, or_and_right, exists_or, exists_eq_left, hfile]

theorem isWarning_of_mem_readVisits (directory : Path) (d : Dictionary) (visits : List Visit) :
    ∀ event ∈ (readVisits directory d visits).events, event.isWarning = true := by
  induction visits generalizing d with
  | nil => exact List.forall_mem_nil _
  | cons visit rest ih =>
    cases visit with
    | broken => exact List.forall_mem_nil _
    | file path bytes =>
      rw [readVisits]
      split
      · exact List.forall_mem_nil _
      · apply Report.forall_events_andThen
        · exact PatternFile.isWarning_of_mem_readLines path.display ∅ 1 _
        · intro own
          apply Report.forall_events_andThen
          · exact List.forall_mem_map.mpr fun name _ => rfl
          · exact fun _ => ih (d.merge own)

theorem warnings_readVisits (hbytes : file.2 = text.encoded.toByteArray)
    (hread : (PatternFile.read text (pathOf directory file).display).result = .ok own) :
    (readVisits directory d (visitOf directory file :: rest)).warnings =
      (PatternFile.read text (pathOf directory file).display).warnings ++
        ((d.common own).map (.fileRedefined · (pathOf directory file).display) ++
          (readVisits directory (d.merge own) rest).warnings) := by
  simp only [visitOf, readVisits, decode_eq_ok_iff.mpr hbytes]
  rw [Report.warnings_andThen_of_ok hread, Report.warnings_andThen_of_ok rfl]
  congr 2
  apply List.filter_eq_self.mpr
  intro event hevent
  obtain ⟨name, -, rfl⟩ := List.mem_map.mp hevent
  rfl

theorem warned_readVisits (hbefore : ∀ name, name ∈ d.names ↔ DefinedBy directory before name)
    (h : (readVisits directory d (files.map (visitOf directory))).result = .ok d') :
    Warned directory before files (readVisits directory d (files.map (visitOf directory))).warnings := by
  induction files generalizing before d with
  | nil => exact .nil
  | cons file rest ih =>
    obtain ⟨own, hown⟩ := gives_of_readVisits h file List.mem_cons_self
    have ⟨text, hbytes, hread⟩ := hown
    rw [List.map_cons, result_readVisits_of_gives hown] at h
    rw [List.map_cons, warnings_readVisits hbytes hread]
    apply Warned.cons hbytes hread (Dictionary.nodup_common d own)
    · intro name
      rw [Dictionary.mem_common_iff, hbefore, and_comm]
    · apply ih _ h
      intro name
      rw [Dictionary.mem_names_merge, definedBy_concat hown, hbefore]

theorem warnings_ofDirectory {tree : FileTree} {visits : List Visit}
    (hwalk : tree.walk? directory = some visits) (h : (ofDirectory tree directory).result = .ok d) :
    (ofDirectory tree directory).warnings = (readVisits directory ∅ visits).warnings := by
  have hvisits := (result_ofDirectory_of_walk hwalk).symm.trans h
  rw [ofDirectory, hwalk]
  dsimp only
  rw [Report.warnings_andThen_of_ok hvisits]
  exact List.append_nil _

/-- A file that is read warns of each line that defines a name which a line above defines, by number and
name, and of nothing else; so the warnings and the names are together as many as the lines that define.
A directory without links that is read warns of what its files warn of, and behind the warnings of each
file once of each name in it that a file before it defines. -/
theorem each_redefinition_warned_of_once :
    (∀ text origin d, (PatternFile.read text origin).result = .ok d →
      (∃ told : List (Nat × Text),
        (PatternFile.read text origin).warnings =
          told.map (fun entry => .lineRedefined origin entry.1 entry.2) ∧
        told.Pairwise (fun a b => a.1 < b.1) ∧
        ∀ n name, (n, name) ∈ told ↔ ∃ before line after, text.lines = before ++ line :: after ∧
          n = before.length + 1 ∧ PatternFile.Names line name ∧
            ∃ earlier ∈ before, PatternFile.Names earlier name) ∧
      (PatternFile.read text origin).warnings.length + d.size =
        text.lines.countP (PatternFile.IsDefinition ·)) ∧
    ∀ (tree : FileTree) (directory : Path) (way : List Path) (entries : List (Path × FileNode))
      (files : List (List Path × ByteArray)) (d : Dictionary),
      tree.lookup directory = .ok (way, .directory entries) → (FileNode.directory entries).Plain →
        VisibleFiles (.directory entries) files → (ofDirectory tree directory).result = .ok d →
          Warned directory [] files (ofDirectory tree directory).warnings := by
  constructor
  · intro text origin d h
    refine ⟨?_, PatternFile.length_warnings_read h⟩
    obtain ⟨told, hevents, hsorted, hmem⟩ := PatternFile.exists_told_of_readLines h
    refine ⟨told, (PatternFile.warnings_read text origin).trans hevents, hsorted, fun n name => ?_⟩
    rw [hmem, PatternFile.redefines_empty]
  · intro tree directory way entries files d hlookup hplain hfiles h
    have hwalk := walk?_of_plain hlookup hplain
    rw [(visibleFiles_visible hplain).unique hfiles] at hwalk
    rw [warnings_ofDirectory hwalk h]
    rw [result_ofDirectory_of_walk hwalk] at h
    apply warned_readVisits _ h
    intro name
    exact iff_of_false List.not_mem_nil (by simp [DefinedBy])

theorem name_repeated_in_file_and_across_files :
    let text : Text := "X 1\n# X 2\nY 3\nX 4\n\nX 5"
    let entries : List (Path × FileNode) :=
      [("b", .file "X 3\nY 4\nX 5".toUTF8), ("a", .file "X 1\nX 2".toUTF8)]
    let tree : FileTree := ⟨.directory [("p", .directory entries)], []⟩
    (∃ d, (PatternFile.read text "f").result = .ok d ∧
      (PatternFile.read text "f").warnings = [.lineRedefined "f" 4 "X", .lineRedefined "f" 6 "X"] ∧
      2 + d.size = text.lines.countP (PatternFile.IsDefinition ·)) ∧
    (ofDirectory tree "p").warnings = [.lineRedefined "p/a" 2 "X", .lineRedefined "p/b" 3 "X",
      .fileRedefined "X" "p/b"] ∧
    Warned "p" [] [([("a" : Path)], "X 1\nX 2".toUTF8), ([("b" : Path)], "X 3\nY 4\nX 5".toUTF8)]
      (ofDirectory tree "p").warnings := by
  intro text entries tree
  obtain ⟨d, hread⟩ : ∃ d, (PatternFile.read text "f").result = .ok d := ⟨_, rfl⟩
  have hwarnings : (PatternFile.read text "f").warnings =
      [.lineRedefined "f" 4 "X", .lineRedefined "f" 6 "X"] := by decide
  have hcount := (each_redefinition_warned_of_once.1 text "f" d hread).2
  rw [hwarnings] at hcount
  have hlookup : tree.lookup "p" = .ok ([("p" : Path)], .directory entries) := by cbv
  have hplain : (FileNode.directory entries).Plain :=
    .directory (by decide +kernel) (by simp [entries, Plain.file])
  have hfiles := visibleFiles_visible hplain
  have hvisible : (FileNode.directory entries).visible =
      [([("a" : Path)], "X 1\nX 2".toUTF8), ([("b" : Path)], "X 3\nY 4\nX 5".toUTF8)] := by cbv
  rw [hvisible] at hfiles
  have hdirectory : (ofDirectory tree "p").result = .ok (.ofList [("X", "5"), ("Y", "4")]) := by cbv
  refine ⟨⟨d, hread, hwarnings, hcount⟩, by cbv, ?_⟩
  exact each_redefinition_warned_of_once.2 tree "p" _ entries _ _ hlookup hplain hfiles hdirectory

end Grok.Library
