import Grok.Library.Directory
import Grok.Proofs.Dictionary.Lookup
import Grok.Proofs.FileTree.Visible

namespace Grok.Library

open FileTree FileNode

def Gives (directory : Path) (file : List Path × ByteArray) (own : Dictionary) : Prop :=
  ∃ text : Text, file.2 = text.encoded.toByteArray ∧
    (PatternFile.read text (pathOf directory file).display).result = .ok own

def readFile (directory : Path) (file : List Path × ByteArray) : Except Error Dictionary :=
  match decode file.2 with
  | .error e => .error (.load (.unreadable (pathOf directory file).display e))
  | .ok text => (PatternFile.read text (pathOf directory file).display).result

def definitionIn (directory : Path) (name : Text) (file : List Path × ByteArray) : Option Text :=
  (readFile directory file).toOption.bind (·.get? name)

variable {directory : Path} {name definition : Text} {file : List Path × ByteArray}
  {files : List (List Path × ByteArray)} {own d : Dictionary} {e : Error}

theorem readFile_eq_ok_iff : readFile directory file = .ok own ↔ Gives directory file own := by
  unfold readFile Gives
  simp only [← decode_eq_ok_iff]
  cases decode file.2 <;> simp

theorem definitionIn_eq_some_iff : definitionIn directory name file = some definition ↔
    ∃ own, Gives directory file own ∧ own.get? name = some definition := by
  simp only [definitionIn, ← readFile_eq_ok_iff, Option.bind_eq_some_iff]
  cases readFile directory file <;> simp [Except.toOption]

theorem definitionIn_eq_none_iff : definitionIn directory name file = none ↔
    ∀ own, Gives directory file own → own.get? name = none := by
  simp only [definitionIn, ← readFile_eq_ok_iff]
  cases readFile directory file <;> simp [Except.toOption]

theorem result_readVisits_file (directory : Path) (d : Dictionary) (path : Path) (bytes : ByteArray)
    (rest : List Visit) :
    (readVisits directory d (.file path bytes :: rest)).result =
      (readFile path ([], bytes)).bind fun own => (readVisits directory (d.merge own) rest).result := by
  simp only [readVisits, readFile]
  cases decode bytes with
  | error e => rfl
  | ok text =>
    simp only [pathOf, List.foldl_nil, Report.andThen]
    cases (PatternFile.read text path.display).result <;> rfl

theorem result_readVisits (directory : Path) (d : Dictionary) (file : List Path × ByteArray)
    (rest : List Visit) :
    (readVisits directory d (visitOf directory file :: rest)).result =
      (readFile directory file).bind fun own => (readVisits directory (d.merge own) rest).result :=
  result_readVisits_file directory d (pathOf directory file) file.2 rest

theorem result_readVisits_of_gives {rest : List Visit} (h : Gives directory file own) :
    (readVisits directory d (visitOf directory file :: rest)).result =
      (readVisits directory (d.merge own) rest).result := by
  rw [result_readVisits, readFile_eq_ok_iff.mpr h, Except.bind]

theorem gives_of_readVisits {d' : Dictionary}
    (h : (readVisits directory d (files.map (visitOf directory))).result = .ok d') :
    ∀ file ∈ files, ∃ own, Gives directory file own := by
  induction files generalizing d with
  | nil => simp
  | cons file rest ih =>
    rw [List.map_cons, result_readVisits] at h
    cases hread : readFile directory file with
    | error e =>
      rw [hread] at h
      cases h
    | ok own =>
      rw [hread] at h
      exact List.forall_mem_cons.mpr ⟨⟨own, readFile_eq_ok_iff.mp hread⟩, ih h⟩

theorem result_ofDirectory_of_walk {tree : FileTree} {visits : List Visit}
    (h : tree.walk? directory = some visits) :
    (ofDirectory tree directory).result = (readVisits directory ∅ visits).result := by
  rw [ofDirectory, h]
  simp only [Report.andThen]
  cases (readVisits directory ∅ visits).result <;> rfl

section

variable {tree : FileTree} {way : List Path} {entries : List (Path × FileNode)}
  (hlookup : tree.lookup directory = .ok (way, .directory entries))
  (hplain : (FileNode.directory entries).Plain)
  (hfiles : VisibleFiles (.directory entries) files)
include hlookup hplain hfiles

end

end Grok.Library
