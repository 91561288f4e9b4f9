import Grok.Proofs.Dictionary.Size
import Grok.Proofs.Text.Encoding

namespace Grok.Dictionary

variable {d other : Dictionary} {name definition : Text} {pairs pairs' : List (Text × Text)}

theorem get?_ofList (pairs : List (Text × Text)) (name : Text) :
    (ofList pairs).get? name = pairs.reverse.findSome? (definitionIn name) := by
  rw [ofList, get?_insertMany, get?_empty, Option.or_none]

theorem get?_ofList_eq_some_iff : (ofList pairs).get? name = some definition ↔
    ∃ before after, pairs = before ++ (name, definition) :: after ∧
      ∀ later ∈ after, later.1 ≠ name := by
  rw [get?_ofList, findSome?_reverse_eq_some_iff]
  simp only [definitionIn, ite_eq_right_iff, reduceCtorEq, imp_false]
  constructor
  · rintro ⟨before, pair, after, rfl, hpair, hafter⟩
    rw [← definitionIn, definitionIn_eq_some_iff] at hpair
    exact ⟨before, after, by rw [hpair], hafter⟩
  · rintro ⟨before, after, rfl, hafter⟩
    exact ⟨before, _, after, rfl, if_pos rfl, hafter⟩

theorem ofList_append (pairs more : List (Text × Text)) :
    ofList (pairs ++ more) = (ofList pairs).merge (ofList more) := by
  apply ext_get?
  intro name
  rw [get?_merge, get?_ofList, get?_ofList, get?_ofList, List.reverse_append,
    List.findSome?_append]

def insertNoting (d : Dictionary) : List (Text × Text) → Dictionary × List Text
  | [] => (d, [])
  | pair :: rest =>
    let (whole, replaced) := (d.insert pair.1 pair.2).insertNoting rest
    (whole, if d.contains pair.1 then pair.1 :: replaced else replaced)

theorem insertNoting_fst (d : Dictionary) (pairs : List (Text × Text)) :
    (d.insertNoting pairs).1 = d.insertMany pairs := by
  induction pairs generalizing d with
  | nil => rfl
  | cons pair rest ih => exact ih (d.insert pair.1 pair.2)

theorem insertNoting_snd (hnames : (pairs.map (·.1)).Nodup) (d : Dictionary) :
    (d.insertNoting pairs).2 = (pairs.map (·.1)).filter d.contains := by
  induction pairs generalizing d with
  | nil => rfl
  | cons pair rest ih =>
    rw [List.map_cons, List.nodup_cons] at hnames
    have hrest : (rest.map (·.1)).filter (d.insert pair.1 pair.2).contains =
        (rest.map (·.1)).filter d.contains := by
      apply List.filter_congr
      intro name hname
      have hne : name ≠ pair.1 := fun h => hnames.1 (h ▸ hname)
      rw [contains, contains, get?_insert, if_neg hne]
    rw [insertNoting, List.map_cons, List.filter_cons, ← hrest, ← ih hnames.2]

theorem insertNoting_of_perm (h : pairs.Perm other.entries) (d : Dictionary) :
    (d.insertNoting pairs).1 = d.merge other ∧
      (d.insertNoting pairs).2.Perm (d.common other) := by
  have hnames : (pairs.map (·.1)).Nodup := (h.map _).nodup_iff.mpr other.nodup_names
  rw [insertNoting_fst, insertMany_of_perm h, insertNoting_snd hnames]
  exact ⟨rfl, (h.map _).filter _⟩

/-- The dictionary of two lists of definitions is that of the first merged with that of the second, and
the last definition of a name counts. A merged dictionary has the definitions of its second part, and
of its first one for all other names; merging three is associative. The names that both define are
listed once each, and the merged dictionary is smaller by their number than both together; it does not
matter in which order the entries of the second part are taken in. The order of definitions does not
matter either if no name is repeated. The names of a dictionary stand in the strict order of their
bytes, and they are the names that have a definition. -/
theorem dictionaries_are_merged_by_name :
    (∀ pairs more, ofList (pairs ++ more) = (ofList pairs).merge (ofList more)) ∧
    (∀ pairs name definition, (ofList pairs).get? name = some definition ↔
      ∃ before after, pairs = before ++ (name, definition) :: after ∧
        ∀ later ∈ after, later.1 ≠ name) ∧
    (∀ a b : Dictionary, (∀ name, (a.merge b).get? name = (b.get? name).or (a.get? name)) ∧
      (a.common b).Nodup ∧ (∀ name, name ∈ a.common b ↔ name ∈ a.names ∧ name ∈ b.names) ∧
      (a.merge b).size + (a.common b).length = a.size + b.size ∧
      (∀ pairs, pairs.Perm b.entries → (a.insertNoting pairs).1 = a.merge b ∧
        (a.insertNoting pairs).2.Perm (a.common b)) ∧
      ∀ c, (a.merge b).merge c = a.merge (b.merge c)) ∧
    (∀ pairs pairs' : List (Text × Text), (pairs.map (·.1)).Nodup → pairs.Perm pairs' →
      ofList pairs = ofList pairs') ∧
    ∀ d : Dictionary, d.names.Pairwise (fun a b => a.encoded < b.encoded) ∧
      d.names.length = d.size ∧ ∀ name, (d.contains name = true ↔ (d.get? name).isSome) ∧
        ((d.get? name).isSome ↔ name ∈ d.names) := by
  refine ⟨ofList_append, fun _ _ _ => get?_ofList_eq_some_iff, fun a b => ⟨fun _ => get?_merge,
    nodup_common a b, fun _ => mem_common_iff, size_merge a b,
    fun _ h => insertNoting_of_perm h a, fun _ => merge_assoc⟩,
    fun _ _ hnames h => insertMany_perm hnames h, fun d => ⟨?_, ?_, fun name => ⟨Iff.rfl, ?_⟩⟩⟩
  · apply List.pairwise_map.mpr
    exact d.sorted.imp Text.encoded_lt
  · exact List.length_map _
  · exact contains_iff

theorem common_name_noted_in_any_order :
    let a := ofList [("A", "1"), ("é", "2"), ("B", "2"), ("A", "3")]
    let entries : List (Text × Text) := [("C", "4"), ("B", "x")]
    let b := ofList entries
    (entries.map (·.1)).Nodup ∧ entries.Perm b.entries ∧ b = ofList entries.reverse ∧
      a.get? "A" = some ("3" : Text) ∧ (a.merge b).get? "B" = some ("x" : Text) ∧
      a.insertNoting entries = (a.merge b, [("B" : Text)]) ∧ (a.merge b).size = 4 ∧
      a.names = [("A" : Text), "B", "é"] ∧ a.names.Pairwise fun a b => a.encoded < b.encoded := by
  intro a entries b
  obtain ⟨-, hlast, hmerge, hperm, hnames⟩ := dictionaries_are_merged_by_name
  obtain ⟨hget, -, -, hsize, hnoted, -⟩ := hmerge a b
  have hnodup : (entries.map (·.1)).Nodup := by decide
  have hentries : entries.Perm b.entries := .swap _ _ _
  have hcommon : a.common b = [("B" : Text)] := by decide
  obtain ⟨hwhole, hreplaced⟩ := hnoted entries hentries
  rw [hcommon, List.perm_singleton] at hreplaced
  refine ⟨hnodup, hentries, hperm _ _ hnodup (List.reverse_perm _).symm, ?_, ?_,
    Prod.ext hwhole hreplaced, ?_, by decide, (hnames a).1⟩
  · exact (hlast _ _ _).mpr ⟨[("A", "1"), ("é", "2"), ("B", "2")], [], rfl, by simp⟩
  · rw [hget]
    decide
  · rw [hcommon] at hsize
    exact Nat.succ.inj hsize

end Grok.Dictionary
