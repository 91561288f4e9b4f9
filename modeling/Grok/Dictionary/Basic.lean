import Grok.Text.Order

/-!
A dictionary gives patterns by name. Its entries are kept in the order of their names, one entry
a name, so that dictionaries with the same definitions are equal.
-/

namespace Grok

structure Dictionary where
  entries : List (Text × Text)
  sorted : entries.Pairwise fun a b => a.1 < b.1

namespace Dictionary

def insertEntry (name definition : Text) : List (Text × Text) → List (Text × Text)
  | [] => [(name, definition)]
  | entry :: rest =>
    if name < entry.1 then (name, definition) :: entry :: rest
    else if entry.1 < name then entry :: insertEntry name definition rest
    else (name, definition) :: rest

theorem name_mem_insertEntry {name definition : Text} {entries : List (Text × Text)}
    {e : Text × Text} (h : e ∈ insertEntry name definition entries) :
    e.1 = name ∨ e ∈ entries := by
  induction entries with
  | nil => simp_all [insertEntry]
  | cons entry rest ih =>
    simp only [insertEntry] at h
    split at h
    · rcases List.mem_cons.1 h with h | h
      · exact .inl (by rw [h])
      · exact .inr h
    · split at h
      · rcases List.mem_cons.1 h with h | h
        · exact .inr (by rw [h]; exact List.mem_cons_self)
        · exact (ih h).imp_right (List.mem_cons_of_mem _)
      · rcases List.mem_cons.1 h with h | h
        · exact .inl (by rw [h])
        · exact .inr (List.mem_cons_of_mem _ h)

theorem sorted_insertEntry (name definition : Text) {entries : List (Text × Text)}
    (h : entries.Pairwise fun a b => a.1 < b.1) :
    (insertEntry name definition entries).Pairwise fun a b => a.1 < b.1 := by
  induction entries with
  | nil => simp [insertEntry]
  | cons entry rest ih =>
    have hr := List.pairwise_cons.1 h
    simp only [insertEntry]
    split
    next hlt =>
      refine List.pairwise_cons.2 ⟨fun e he => ?_, h⟩
      rcases List.mem_cons.1 he with rfl | he
      · exact hlt
      · exact Text.lt_trans hlt (hr.1 e he)
    next hlt =>
      split
      next hgt =>
        refine List.pairwise_cons.2 ⟨fun e he => ?_, ih hr.2⟩
        rcases name_mem_insertEntry he with he | he
        · rw [he]; exact hgt
        · exact hr.1 e he
      next hgt =>
        have : name = entry.1 := Text.eq_of_not_lt hlt hgt
        refine List.pairwise_cons.2 ⟨fun e he => ?_, hr.2⟩
        rw [this]; exact hr.1 e he

def empty : Dictionary := ⟨[], .nil⟩

instance : EmptyCollection Dictionary := ⟨empty⟩

instance : Inhabited Dictionary := ⟨∅⟩

def insert (d : Dictionary) (name definition : Text) : Dictionary :=
  ⟨insertEntry name definition d.entries, sorted_insertEntry name definition d.sorted⟩

def get? (d : Dictionary) (name : Text) : Option Text :=
  (d.entries.find? (·.1 = name)).map (·.2)

def contains (d : Dictionary) (name : Text) : Bool := (d.get? name).isSome

def size (d : Dictionary) : Nat := d.entries.length

def isEmpty (d : Dictionary) : Bool := d.entries.isEmpty

def names (d : Dictionary) : List Text := d.entries.map (·.1)

theorem get?_eq_none_iff {d : Dictionary} {name : Text} : d.get? name = none ↔ name ∉ d.names := by
  simp only [get?, names, Option.map_eq_none_iff, List.find?_eq_none, List.mem_map,
    decide_eq_true_eq, not_exists, not_and]

def insertMany (d : Dictionary) (pairs : List (Text × Text)) : Dictionary :=
  pairs.foldl (fun d pair => d.insert pair.1 pair.2) d

def ofList (pairs : List (Text × Text)) : Dictionary := insertMany ∅ pairs

def merge (d other : Dictionary) : Dictionary := d.insertMany other.entries

def common (d other : Dictionary) : List Text := other.names.filter d.contains

end Dictionary

end Grok
