import Grok.Proofs.Library.Directory
import Grok.Proofs.PatternFile.Splitting

namespace Grok.Library

open FileTree

inductive Reads : Visit → Text → Prop
  | file {path : Path} {text : Text} {own : Dictionary}
      (hread : (PatternFile.read text path.display).result = .ok own) :
      Reads (.file path text.encoded.toByteArray) text

inductive Ended (text : Text) : Text → Prop
  | kept (hended : text.LineEnded) : Ended text text
  | added : Ended text (text ++ ['\n'])

variable {directory : Path} {text block origin : Text} {visits : List Visit} {texts blocks : List Text}
  {d d' : Dictionary}

theorem Ended.lineEnded (h : Ended text block) : block.LineEnded := by
  cases h with
  | kept hended => exact hended
  | added => exact Text.lineEnded_concat text

theorem Ended.result_read (h : Ended text block) (origin : Text) :
    (PatternFile.read block origin).result = (PatternFile.read text origin).result := by
  cases h with
  | kept => rfl
  | added => exact PatternFile.result_read_lineFeed text origin

theorem readVisits_of_reads (hvisits : List.Forall₂ Reads visits texts)
    (hblocks : List.Forall₂ Ended texts blocks) (directory : Path) (origin : Text) (d : Dictionary) :
    ∃ own, (PatternFile.read blocks.flatten origin).result = .ok own ∧
      (readVisits directory d visits).result = .ok (d.merge own) := by
  -- whatever is read before stays in front, and merging is associative
  induction hvisits generalizing blocks d with
  | nil =>
    cases hblocks
    exact ⟨∅, rfl, rfl⟩
  | @cons visit text visits texts hfile _ ih =>
    obtain ⟨block, blocks, hended, hrest, rfl⟩ := List.forall₂_cons_left_iff.mp hblocks
    cases hfile with
    | @file path _ own hread =>
      obtain ⟨others, hothers, hvisits⟩ := ih hrest (d.merge own)
      have hown : (PatternFile.read block origin).result = .ok own := by
        rw [hended.result_read]
        exact PatternFile.read_eq_ok_of_origin hread origin
      have hgives : readFile path ([], text.encoded.toByteArray) = .ok own :=
        readFile_eq_ok_iff.mpr ⟨text, rfl, hread⟩
      refine ⟨own.merge others, ?_, ?_⟩
      · rw [List.flatten_cons, PatternFile.result_read_append hended.lineEnded, hown, hothers]
        rfl
      · rw [result_readVisits_file, hgives, Except.bind, hvisits, Dictionary.merge_assoc]

theorem reads_of_readVisits (h : (readVisits directory d visits).result = .ok d') :
    ∃ texts, List.Forall₂ Reads visits texts := by
  induction visits generalizing d with
  | nil => exact ⟨[], .nil⟩
  | cons visit rest ih =>
    cases visit with
    | broken => cases h
    | file path bytes =>
      rw [result_readVisits_file] at h
      cases hread : readFile path ([], bytes) with
      | error e =>
        rw [hread] at h
        cases h
      | ok own =>
        rw [hread] at h
        obtain ⟨texts, htexts⟩ := ih h
        obtain ⟨text, rfl, htext⟩ := readFile_eq_ok_iff.mp hread
        exact ⟨text :: texts, .cons (.file htext) htexts⟩

/-- A file cut behind a line feed is read as its parts are. Of a name in both the second part counts;
an error of the first part stays the same, and one of the second part is told with the lines of the
first part above it. So the files that the walk of a directory visits, if all of them are read, give
what their texts give as one file. -/
theorem parts_read_as_one_file :
    (∀ a b origin : Text, a.LineEnded →
      (∀ d d', (PatternFile.read a origin).result = .ok d →
        (PatternFile.read b origin).result = .ok d' →
          (PatternFile.read (a ++ b) origin).result = .ok (d.merge d') ∧
          ∀ name, (d.merge d').get? name = (d'.get? name).or (d.get? name)) ∧
      (∀ e, (PatternFile.read a origin).result = .error e →
        (PatternFile.read (a ++ b) origin).result = .error e) ∧
      ∀ d e, (PatternFile.read a origin).result = .ok d →
        (PatternFile.read b origin).result = .error e →
          ∃ number problem, e = .patternLine origin number problem ∧
            (PatternFile.read (a ++ b) origin).result =
              .error (.patternLine origin (a.lines.length + number) problem)) ∧
    ∀ (tree : FileTree) (directory : Path) (visits : List Visit),
      tree.walk? directory = some visits →
        ((∃ d, (ofDirectory tree directory).result = .ok d) ↔
          ∃ texts, List.Forall₂ Reads visits texts) ∧
        ∀ texts blocks, List.Forall₂ Reads visits texts → List.Forall₂ Ended texts blocks →
          ∀ origin, ∃ d, (ofDirectory tree directory).result = .ok d ∧
            (PatternFile.read blocks.flatten origin).result = .ok d := by
  refine ⟨fun a b origin ha => ?_, fun tree directory visits hwalk => ?_⟩
  · have happend := PatternFile.result_read_append ha b origin
    refine ⟨fun d d' hd hd' => ⟨?_, fun name => Dictionary.get?_merge⟩, fun e he => ?_,
      fun d e hd he => ?_⟩
    · rw [happend, hd, hd']
      rfl
    · rw [happend, he]
      rfl
    · obtain ⟨number, problem, rfl⟩ := PatternFile.exists_patternLine_of_readLines he
      refine ⟨number, problem, rfl, ?_⟩
      rw [happend, hd, he]
      rfl
  · rw [result_ofDirectory_of_walk hwalk]
    refine ⟨⟨fun ⟨d, hd⟩ => reads_of_readVisits hd, ?_⟩, ?_⟩
    · rintro ⟨texts, htexts⟩
      have hended : List.Forall₂ Ended texts (texts.map (· ++ ['\n'])) :=
        List.forall₂_map_right_iff.mpr (List.forall₂_same.mpr fun text _ => .added)
      obtain ⟨own, -, hvisits⟩ := readVisits_of_reads htexts hended directory [] ∅
      exact ⟨_, hvisits⟩
    · intro texts blocks htexts hblocks origin
      obtain ⟨own, hown, hvisits⟩ := readVisits_of_reads htexts hblocks directory origin ∅
      exact ⟨own, by rw [hvisits, Dictionary.empty_merge], hown⟩

theorem later_part_counts_and_lines_go_on :
    let first : Text := "X 1\r\n\n# x\nY 2\n"
    let second : Text := "X 3"
    let bad : Text := "\nLONELY"
    let entries : List (Path × FileNode) :=
      [("b", .file second.encoded.toByteArray), ("a", .file first.encoded.toByteArray)]
    let tree : FileTree := ⟨.directory [("p", .directory entries)], []⟩
    first.LineEnded ∧
      (∃ d, (PatternFile.read (first ++ second) "f").result = .ok d ∧
        d.get? "X" = some ("3" : Text)) ∧
      (PatternFile.read (first ++ bad) "f").result =
        .error (.patternLine "f" 6 (.missingDefinition "LONELY")) ∧
      ∃ d, (ofDirectory tree "p").result = .ok d ∧
        (PatternFile.read (first ++ (second ++ ['\n'])) "f").result = .ok d := by
  intro first second bad entries tree
  have hended : first.LineEnded := .inr (by decide)
  obtain ⟨d, hd⟩ : ∃ d, (PatternFile.read first "f").result = .ok d := ⟨_, rfl⟩
  obtain ⟨d', hd', hX⟩ : ∃ d', (PatternFile.read second "f").result = .ok d' ∧
      d'.get? "X" = some ("3" : Text) := ⟨_, rfl, rfl⟩
  have hbad : (PatternFile.read bad "f").result =
      .error (.patternLine "f" 2 (.missingDefinition "LONELY")) := rfl
  -- the walk does not look into the files, whose bytes are kept closed here
  have hwalk : ∀ x y : ByteArray, FileTree.walk?
      ⟨.directory [("p", .directory [("b", .file x), ("a", .file y)])], []⟩ "p" =
        some [.file "p/a" y, .file "p/b" x] := by
    intro x y
    cbv
  obtain ⟨hparts, hfiles⟩ := parts_read_as_one_file
  obtain ⟨hjoined, hget⟩ := (hparts first second "f" hended).1 d d' hd hd'
  obtain ⟨number, problem, he, herror⟩ := (hparts first bad "f" hended).2.2 d _ hd hbad
  cases he
  have hreads : List.Forall₂ Reads [.file "p/a" first.encoded.toByteArray,
      .file "p/b" second.encoded.toByteArray] [first, second] :=
    .cons (.file (PatternFile.read_eq_ok_of_origin hd "p/a"))
      (.cons (.file (PatternFile.read_eq_ok_of_origin hd' "p/b")) .nil)
  have hblocks : List.Forall₂ Ended [first, second] [first, second ++ ['\n']] :=
    .cons (.kept hended) (.cons .added .nil)
  obtain ⟨whole, hdirectory, hwhole⟩ := (hfiles tree "p" _ (hwalk _ _)).2 _ _ hreads hblocks "f"
  exact ⟨hended, ⟨_, hjoined, by rw [hget, hX]; rfl⟩, herror, whole, hdirectory, hwhole⟩

end Grok.Library
