import Grok.Metric.Document
import Mathlib

namespace Grok

open Yaml

namespace MetricDefinition

theorem mapM_eq_some_iff {α β : Type} {f : α → Option β} {as : List α} {bs : List β} :
    as.mapM f = some bs ↔ List.Forall₂ (fun a b => f a = some b) as bs := by
  induction as generalizing bs with
  | nil => simp [eq_comm]
  | cons a as ih =>
    simp only [List.mapM_cons, List.forall₂_cons_left_iff, Option.bind_eq_bind,
      Option.bind_eq_some_iff, Option.pure_def, Option.some.injEq, ih]
    constructor
    · rintro ⟨b, hb, bs, hbs, rfl⟩
      exact ⟨b, bs, hb, hbs, rfl⟩
    · rintro ⟨b, bs, hb, hbs, rfl⟩
      exact ⟨b, hb, bs, hbs, rfl⟩

theorem isSome_mapM_iff {α β : Type} {f : α → Option β} {as : List α} :
    (as.mapM f).isSome ↔ ∀ a ∈ as, (f a).isSome := by
  induction as with
  | nil => simp
  | cons a as ih =>
    rw [List.forall_mem_cons, ← ih, List.mapM_cons]
    cases f a <;> cases as.mapM f <;> simp

namespace Part

variable {anchored : List (Nat × Node)} {fields : List (Text × Option Node)}
  {entries : List (Node × Node)} {read : List (Text × Node)} {node : Node} {key : Text}

def present (fields : List (Text × Option Node)) : List (Text × Node) :=
  fields.flatMap fun field => (field.2.map (field.1, ·)).toList

def IsEntry (anchored : List (Nat × Node)) (entry : Node × Node) (field : Text × Node) : Prop :=
  text? ⟨anchored, entry.1⟩ = some field.1 ∧ entry.2 = field.2

/-- A mapping has the fields that are there as entries, and besides them entries of other keys that
are texts too. The order of all of them is free. -/
inductive Holds (anchored : List (Nat × Node)) (fields : List (Text × Option Node))
    (entries : List (Node × Node)) : Prop
  | of_perm {own further : List (Node × Node)} (hperm : entries.Perm (own ++ further))
      (hown : List.Forall₂ (IsEntry anchored) own (present fields))
      (hfurther : ∀ entry ∈ further, ∃ key ∉ fields.map (·.1), text? ⟨anchored, entry.1⟩ = some key)

theorem entries?_of_forall₂ (hnode : node.resolve anchored = .mapping entries)
    (hread : List.Forall₂ (IsEntry anchored) entries read) :
    entries? ⟨anchored, node⟩ = some (read.map fun field => (field.1, ⟨anchored, field.2⟩)) := by
  rw [entries?, resolved, hnode, mapM_eq_some_iff, List.forall₂_map_right_iff]
  apply hread.imp
  rintro ⟨key, value⟩ ⟨name, node⟩ ⟨hkey, rfl⟩
  exact Option.map_eq_some_iff.mpr ⟨name, hkey, rfl⟩

theorem entries?_eq_none {entry : Node × Node} (hnode : node.resolve anchored = .mapping entries)
    (hentry : entry ∈ entries) (hkey : text? ⟨anchored, entry.1⟩ = none) :
    entries? ⟨anchored, node⟩ = none := by
  rw [entries?, resolved, hnode, ← Option.not_isSome_iff_eq_none, isSome_mapM_iff]
  intro hall
  simpa [hkey] using hall entry hentry

theorem value?_of_filter {value : Option Node}
    (h : read.filter (·.1 = key) = (value.map (key, ·)).toList) :
    value? (read.map fun field => (field.1, ⟨anchored, field.2⟩)) key =
      some (value.map (Part.mk anchored)) := by
  have hfilter : (read.map fun field => (field.1, Part.mk anchored field.2)).filter (·.1 = key) =
      ((value.map (key, ·)).toList).map fun field => (field.1, Part.mk anchored field.2) := by
    rw [List.filter_map, ← h]
    rfl
  rw [value?, hfilter]
  cases value <;> rfl

theorem filter_eq_nil_of_ne (h : ∀ field ∈ read, field.1 ≠ key) : read.filter (·.1 = key) = [] := by
  rw [List.filter_eq_nil_iff]
  intro field hfield
  simpa using h field hfield

theorem fst_mem_of_mem_present {field : Text × Node} (h : field ∈ present fields) :
    field.1 ∈ fields.map (·.1) := by
  obtain ⟨own, hown, hfield⟩ := List.mem_flatMap.mp h
  obtain ⟨node, -, rfl⟩ := Option.map_eq_some_iff.mp (Option.mem_toList.mp hfield)
  exact List.mem_map_of_mem hown

theorem filter_present (hnames : (fields.map (·.1)).Nodup) {field : Text × Option Node}
    (hfield : field ∈ fields) :
    (present fields).filter (·.1 = field.1) = (field.2.map (field.1, ·)).toList := by
  induction fields with
  | nil => cases hfield
  | cons first rest ih =>
    rw [List.map_cons, List.nodup_cons] at hnames
    rw [present, List.flatMap_cons, List.filter_append, ← present]
    rcases List.mem_cons.mp hfield with rfl | hrest
    · have hnone : (present rest).filter (·.1 = field.1) = [] := by
        apply filter_eq_nil_of_ne
        intro other hother heq
        exact hnames.1 (heq ▸ fst_mem_of_mem_present hother)
      rw [hnone]
      cases field.2 <;> simp
    · have hne : first.1 ≠ field.1 := by
        intro heq
        exact hnames.1 (heq ▸ List.mem_map_of_mem hrest)
      rw [ih hnames.2 hrest]
      cases first.2 <;> simp [hne]

theorem exists_read_further
    (h : ∀ entry ∈ entries, ∃ key ∉ fields.map (·.1), text? ⟨anchored, entry.1⟩ = some key) :
    ∃ read, List.Forall₂ (IsEntry anchored) entries read ∧ ∀ r ∈ read, r.1 ∉ fields.map (·.1) := by
  induction entries with
  | nil => exact ⟨[], .nil, by simp⟩
  | cons entry rest ih =>
    obtain ⟨⟨key, hkey, hentry⟩, hrest⟩ := List.forall_mem_cons.mp h
    obtain ⟨read, hread, hnone⟩ := ih hrest
    exact ⟨(key, entry.2) :: read, .cons ⟨hentry, rfl⟩ hread, List.forall_mem_cons.mpr ⟨hkey, hnone⟩⟩

theorem Holds.exists_read (h : Holds anchored fields entries)
    (hnames : (fields.map (·.1)).Nodup) :
    ∃ read, List.Forall₂ (IsEntry anchored) entries read ∧
      ∀ field ∈ fields, read.filter (·.1 = field.1) = (field.2.map (field.1, ·)).toList := by
  obtain ⟨hperm, hown, hfurther⟩ := h
  obtain ⟨further, hread, hnone⟩ := exists_read_further hfurther
  obtain ⟨read, hentries, hread⟩ := List.perm_comp_forall₂ hperm (List.rel_append hown hread)
  refine ⟨read, hentries, fun field hfield => ?_⟩
  have hfurther : further.filter (·.1 = field.1) = [] := by
    apply filter_eq_nil_of_ne
    intro other hother heq
    exact hnone other hother (heq ▸ List.mem_map_of_mem hfield)
  have hfilter := hread.filter (·.1 = field.1)
  rw [List.filter_append, hfurther, List.append_nil, filter_present hnames hfield] at hfilter
  -- One entry at most has the key of the field, so that the order of the entries does not show here.
  cases hvalue : field.2 with
  | none => rw [hvalue] at hfilter; exact List.perm_nil.mp hfilter
  | some node => rw [hvalue] at hfilter; exact List.perm_singleton.mp hfilter

theorem Holds.of_own {own : List (Node × Node)} (hperm : entries.Perm own)
    (hown : List.Forall₂ (IsEntry anchored) own (present fields)) : Holds anchored fields entries :=
  .of_perm (hperm.trans (.of_eq (List.append_nil own).symm)) hown (by simp)

theorem Holds.extend {entries' further : List (Node × Node)} (h : Holds anchored fields entries)
    (hperm : entries'.Perm (entries ++ further))
    (hfurther : ∀ entry ∈ further, ∃ key ∉ fields.map (·.1), text? ⟨anchored, entry.1⟩ = some key) :
    Holds anchored fields entries' := by
  obtain ⟨hentries, hown, hother⟩ := h
  refine .of_perm ?_ hown (List.forall_mem_append.mpr ⟨hother, hfurther⟩)
  rw [← List.append_assoc]
  exact hperm.trans (hentries.append_right further)

theorem Holds.exists_entries? (h : Holds anchored fields entries)
    (hnode : node.resolve anchored = .mapping entries) (hnames : (fields.map (·.1)).Nodup) :
    ∃ es, entries? ⟨anchored, node⟩ = some es ∧
      ∀ field ∈ fields, value? es field.1 = some (field.2.map (Part.mk anchored)) := by
  obtain ⟨read, hread, hvalues⟩ := h.exists_read hnames
  exact ⟨_, entries?_of_forall₂ hnode hread,
    fun field hfield => value?_of_filter (hvalues field hfield)⟩

end Part

inductive Spells (anchored : List (Nat × Node)) (node : Node) (t : Text) : Prop
  | quoted {tag : Option Text} (hnode : node.resolve anchored = .scalar t false tag)
  | plain (hnode : node.resolve anchored = .scalar t true none) (hne : t ≠ [])
      (hword : Node.isNullWord t = false)

inductive Lists {α : Type} (anchored : List (Nat × Node)) (Item : Node → α → Prop) :
    Option Node → List α → Prop
  | absent : Lists anchored Item none []
  | sequence {node : Node} {nodes : List Node} {items : List α}
      (hnode : node.resolve anchored = .sequence nodes) (hitems : List.Forall₂ Item nodes items) :
      Lists anchored Item (some node) items

inductive WritesLabel (anchored : List (Nat × Node)) (node : Node) (b : LabelBinding) : Prop
  | mapping {entries : List (Node × Node)} {field label : Node}
      (hnode : node.resolve anchored = .mapping entries)
      (hfields : Part.Holds anchored
        [("grok_field_name", some field), ("prometheus_label", some label)] entries)
      (hfield : Spells anchored field b.field) (hlabel : Spells anchored label b.label)

def keys : List Text := ["name", "help", "match", "value", "labels"]

inductive Writes (anchored : List (Nat × Node)) (node : Node) (m : MetricDefinition) : Prop
  | mapping {entries : List (Node × Node)} {name : Node} {help expression value labels : Option Node}
      (hnode : node.resolve anchored = .mapping entries)
      (hfields : Part.Holds anchored [("name", some name), ("help", help), ("match", expression),
        ("value", value), ("labels", labels)] entries)
      (hname : Spells anchored name m.name)
      (hhelp : Option.Rel (Spells anchored) help m.help)
      (hexpression : Option.Rel (Spells anchored) expression m.expression)
      (hvalue : Option.Rel (Spells anchored) value m.value)
      (hlabels : Lists anchored (WritesLabel anchored) labels m.labels)

variable {anchored : List (Nat × Node)} {node : Node} {t : Text} {m : MetricDefinition}
  {b : LabelBinding} {entries : List (Text × Part)} {key : Text}

theorem Spells.text? (h : Spells anchored node t) : Part.text? ⟨anchored, node⟩ = some t := by
  cases h with
  | quoted hnode => rw [Part.text?, Part.resolved, hnode]
  | plain hnode => rw [Part.text?, Part.resolved, hnode]

theorem Spells.optionalText? (h : Spells anchored node t) :
    Part.optionalText? ⟨anchored, node⟩ = some (some t) := by
  cases h with
  | quoted hnode => rw [Part.optionalText?, Part.resolved, hnode]
  | plain hnode hne hword => simp [Part.optionalText?, Part.resolved, hnode, hne, hword]

theorem required?_of_spells (hnode : Spells anchored node t)
    (h : Part.value? entries key = some (some ⟨anchored, node⟩)) :
    Part.required? entries key = some t := by
  simp [Part.required?, h, hnode.text?]

theorem optional?_of_rel {node : Option Node} {value : Option Text}
    (hnode : Option.Rel (Spells anchored) node value)
    (h : Part.value? entries key = some (node.map (Part.mk anchored))) :
    Part.optional? entries key = some value := by
  cases hnode with
  | none => simp [Part.optional?, h]
  | some hnode => simp [Part.optional?, h, hnode.optionalText?]

theorem list?_of_sequence {α : Type} {item : Part → Option α} {nodes : List Node}
    (hnode : node.resolve anchored = .sequence nodes)
    (h : Part.value? entries key = some (some ⟨anchored, node⟩)) :
    Part.list? entries key item = nodes.mapM fun node => item ⟨anchored, node⟩ := by
  simp [Part.list?, h, Part.items?, Part.resolved, hnode, Function.comp_def]

theorem list?_of_lists {α : Type} {item : Part → Option α} {Item : Node → α → Prop}
    {node : Option Node} {items : List α} (hnode : Lists anchored Item node items)
    (hitem : ∀ node a, Item node a → item ⟨anchored, node⟩ = some a)
    (h : Part.value? entries key = some (node.map (Part.mk anchored))) :
    Part.list? entries key item = some items := by
  cases hnode with
  | absent => simp [Part.list?, h]
  | sequence hnode hitems =>
    rw [list?_of_sequence hnode h, mapM_eq_some_iff]
    exact hitems.imp hitem

theorem labelOf?_of_writesLabel (h : WritesLabel anchored node b) :
    labelOf? ⟨anchored, node⟩ = some b := by
  obtain ⟨hnode, hfields, hfield, hlabel⟩ := h
  obtain ⟨es, hes, hvalues⟩ := hfields.exists_entries? hnode (by simp)
  simp only [List.forall_mem_cons] at hvalues
  obtain ⟨vfield, vlabel, -⟩ := hvalues
  rw [labelOf?, hes]
  simp only [required?_of_spells hfield vfield, required?_of_spells hlabel vlabel,
    Option.bind_eq_bind, Option.bind_some]

theorem of?_of_writes (h : Writes anchored node m) : of? ⟨anchored, node⟩ = some m := by
  obtain ⟨hnode, hfields, hname, hhelp, hexpression, hvalue, hlabels⟩ := h
  obtain ⟨es, hes, hvalues⟩ := hfields.exists_entries? hnode (by simp)
  simp only [List.forall_mem_cons] at hvalues
  obtain ⟨vname, vhelp, vexpression, vvalue, vlabels, -⟩ := hvalues
  rw [of?, hes]
  simp only [required?_of_spells hname vname, optional?_of_rel hhelp vhelp,
    optional?_of_rel hexpression vexpression, optional?_of_rel hvalue vvalue,
    list?_of_lists hlabels (fun _ _ => labelOf?_of_writesLabel) vlabels,
    Option.bind_eq_bind, Option.bind_some]

theorem spells_quoted (anchored : List (Nat × Node)) (t : Text) : Spells anchored (.quoted t) t :=
  .quoted rfl

theorem rel_spells_quoted (anchored : List (Nat × Node)) (value : Option Text) :
    Option.Rel (Spells anchored) (value.map .quoted) value := by
  cases value with
  | none => exact .none
  | some t => exact .some (spells_quoted anchored t)

theorem holds_quoted (anchored : List (Nat × Node)) (fields : List (Text × Option Node)) :
    Part.Holds anchored fields ((Part.present fields).map fun field => (.quoted field.1, field.2)) := by
  apply Part.Holds.of_own (List.Perm.refl _)
  rw [List.forall₂_map_left_iff, List.forall₂_same]
  intro field _
  exact ⟨rfl, rfl⟩

theorem writesLabel_labelNode (anchored : List (Nat × Node)) (b : LabelBinding) :
    WritesLabel anchored (labelNode b) b :=
  .mapping rfl (holds_quoted anchored _) (spells_quoted anchored _) (spells_quoted anchored _)

def labelsNode (m : MetricDefinition) : Option Node :=
  if m.labels.isEmpty then none else some (.sequence (m.labels.map labelNode))

theorem lists_labelsNode (anchored : List (Nat × Node)) (m : MetricDefinition) :
    Lists anchored (WritesLabel anchored) m.labelsNode m.labels := by
  rw [labelsNode]
  split
  · rename_i hempty
    rw [List.isEmpty_iff.mp hempty]
    exact .absent
  · refine .sequence rfl ?_
    rw [List.forall₂_map_left_iff, List.forall₂_same]
    exact fun b _ => writesLabel_labelNode anchored b

theorem writes_toNode (anchored : List (Nat × Node)) (m : MetricDefinition) :
    Writes anchored m.toNode m := by
  have hnode : m.toNode = .mapping ((Part.present [("name", some (.quoted m.name)),
      ("help", m.help.map .quoted), ("match", m.expression.map .quoted),
      ("value", m.value.map .quoted), ("labels", m.labelsNode)]).map
        fun field => (.quoted field.1, field.2)) := by
    obtain ⟨name, help, expression, value, labels⟩ := m
    cases help <;> cases expression <;> cases value <;> cases labels <;> rfl
  rw [hnode]
  exact .mapping rfl (holds_quoted anchored _) (spells_quoted anchored _)
    (rel_spells_quoted anchored _) (rel_spells_quoted anchored _) (rel_spells_quoted anchored _)
    (lists_labelsNode anchored _)

theorem listOf?_of_holds {entries : List (Node × Node)} {sequence : Node} {nodes : List Node}
    (hnode : node.resolve anchored = .mapping entries)
    (hfields : Part.Holds anchored [("metrics", some sequence)] entries)
    (hsequence : sequence.resolve anchored = .sequence nodes) :
    listOf? ⟨anchored, node⟩ = nodes.mapM fun node => of? ⟨anchored, node⟩ := by
  obtain ⟨es, hes, hvalues⟩ := hfields.exists_entries? hnode (by simp)
  rw [listOf?, hes]
  exact list?_of_sequence hsequence (hvalues _ List.mem_cons_self)

theorem Writes.extend {entries entries' further : List (Node × Node)}
    (h : Writes anchored (.mapping entries) m) (hperm : entries'.Perm (entries ++ further))
    (hfurther : ∀ entry ∈ further, ∃ key ∉ keys, Part.text? ⟨anchored, entry.1⟩ = some key) :
    Writes anchored (.mapping entries') m := by
  obtain ⟨hnode, hfields, hname, hhelp, hexpression, hvalue, hlabels⟩ := h
  cases hnode
  exact .mapping rfl (hfields.extend hperm hfurther) hname hhelp hexpression hvalue hlabels

theorem of?_eq_none {entries : List (Node × Node)} {entry : Node × Node}
    (hnode : node.resolve anchored = .mapping entries) (hentry : entry ∈ entries)
    (hkey : Part.text? ⟨anchored, entry.1⟩ = none) : of? ⟨anchored, node⟩ = none := by
  rw [of?, Part.entries?_eq_none hnode hentry hkey]
  rfl

theorem listOf?_eq_none {entries : List (Node × Node)} {entry : Node × Node}
    (hnode : node.resolve anchored = .mapping entries) (hentry : entry ∈ entries)
    (hkey : Part.text? ⟨anchored, entry.1⟩ = none) : listOf? ⟨anchored, node⟩ = none := by
  rw [listOf?, Part.entries?_eq_none hnode hentry hkey]
  rfl

theorem ofText_eq_ok_iff {refusal : Text → Text} {d : Document} (h : Document.ofText? t = some d) :
    ofText refusal t = .ok m ↔ of? (.ofDocument d) = some m := by
  rw [ofText, h, Option.bind_some]
  cases of? (.ofDocument d) <;> simp

theorem listOfText_eq_ok_iff {refusal : Text → Text} {d : Document} {ms : List MetricDefinition}
    (h : Document.ofText? t = some d) :
    listOfText refusal t = .ok ms ↔ listOf? (.ofDocument d) = some ms := by
  rw [listOfText, h, Option.bind_some]
  cases listOf? (.ofDocument d) <;> simp

/-- A definition is read again from what it is written as, which may be rearranged and extended by
keys that are texts; other keys are refused. A list is read when each of its items is read as a
definition of its own, and the definitions keep their order. -/
theorem written_definitions_are_read :
    (∀ anchored node m, Writes anchored node m → of? ⟨anchored, node⟩ = some m) ∧
    (∀ anchored m, Writes anchored (toNode m) m) ∧
    (∀ anchored m entries entries' further, Writes anchored (.mapping entries) m →
      entries'.Perm (entries ++ further) →
      (∀ entry ∈ further, ∃ key ∉ keys, Part.text? ⟨anchored, entry.1⟩ = some key) →
      Writes anchored (.mapping entries') m) ∧
    (∀ anchored node entries sequence nodes, node.resolve anchored = .mapping entries →
      Part.Holds anchored [("metrics", some sequence)] entries →
      sequence.resolve anchored = .sequence nodes →
      ((listOf? ⟨anchored, node⟩).isSome ↔ ∀ item ∈ nodes, (of? ⟨anchored, item⟩).isSome) ∧
      ∀ ms, listOf? ⟨anchored, node⟩ = some ms ↔
        List.Forall₂ (fun item m => of? ⟨anchored, item⟩ = some m) nodes ms) ∧
    (∀ anchored node entries entry, node.resolve anchored = .mapping entries → entry ∈ entries →
      Part.text? ⟨anchored, entry.1⟩ = none →
      of? ⟨anchored, node⟩ = none ∧ listOf? ⟨anchored, node⟩ = none) ∧
    (∀ refusal t d, Document.ofText? t = some d →
      (∀ m, ofText refusal t = .ok m ↔ of? (.ofDocument d) = some m) ∧
      ∀ ms, listOfText refusal t = .ok ms ↔ listOf? (.ofDocument d) = some ms) := by
  refine ⟨fun _ _ _ => of?_of_writes, writes_toNode, fun _ _ _ _ _ => Writes.extend, ?_, ?_, ?_⟩
  · intro anchored node entries sequence nodes hnode hfields hsequence
    rw [listOf?_of_holds hnode hfields hsequence]
    exact ⟨isSome_mapM_iff, fun ms => mapM_eq_some_iff⟩
  · intro anchored node entries entry hnode hentry hkey
    exact ⟨of?_eq_none hnode hentry hkey, listOf?_eq_none hnode hentry hkey⟩
  · intro refusal t d h
    exact ⟨fun m => ofText_eq_ok_iff h, fun ms => listOfText_eq_ok_iff h⟩

theorem rearranged_definition_is_read :
    let m : MetricDefinition := { name := "m", help := some "null", labels := [⟨"f", "l"⟩] }
    let plain (t : Text) : Node := .scalar t true none
    let fields : List (Node × Node) := [(.quoted "prometheus_label", .quoted "l"),
      (plain "grok_field_name", plain "f")]
    let label : Node := .mapping (fields ++ [(plain "note", .absent)])
    let anchored := [(0, label)]
    let entries : List (Node × Node) := [(plain "labels", .sequence [.reference 0]),
      (plain "help", .quoted "null"), (.quoted "name", plain "m")]
    let extended : Node := .mapping (entries ++ [(plain "unit", .sequence [])])
    let listed : List (Node × Node) := [(plain "metrics", .sequence [extended, toNode m])]
    Writes anchored (.mapping entries) m ∧ of? ⟨anchored, extended⟩ = some m ∧
      listOf? ⟨anchored, .mapping listed⟩ = some [m, m] ∧
      listOf? ⟨anchored, .mapping ((.mapping [], .absent) :: listed)⟩ = none ∧
      ∃ d, Document.ofText? "name: m" = some d ∧ of? (.ofDocument d) = some { name := "m" } := by
  intro m plain fields label anchored entries extended listed
  obtain ⟨hread, hwritten, hextend, hlist, hrefused, htext⟩ := written_definitions_are_read
  have hspells (t : Text) (hne : t ≠ []) (hword : Node.isNullWord t = false) :
      Spells anchored (plain t) t := .plain rfl hne hword
  have hlabel : WritesLabel anchored (.reference 0) ⟨"f", "l"⟩ := by
    have hfields : Part.Holds anchored [("grok_field_name", some (plain "f")),
        ("prometheus_label", some (.quoted "l"))] fields :=
      .of_own (List.reverse_perm [_, _]) (.cons ⟨rfl, rfl⟩ (.cons ⟨rfl, rfl⟩ .nil))
    refine .mapping rfl (hfields.extend (List.Perm.refl _) ?_) (hspells "f" (by decide) rfl)
      (spells_quoted anchored "l")
    intro entry hentry
    obtain rfl := List.mem_singleton.mp hentry
    exact ⟨"note", by decide, rfl⟩
  have hlabels : (Node.sequence [.reference 0]).resolve anchored = .sequence [.reference 0] := rfl
  have hentries : Writes anchored (.mapping entries) m := by
    refine .mapping rfl (.of_own (List.reverse_perm [_, _, _])
      (.cons ⟨rfl, rfl⟩ (.cons ⟨rfl, rfl⟩ (.cons ⟨rfl, rfl⟩ .nil))))
      (hspells "m" (by decide) rfl) (.some (spells_quoted anchored "null")) .none .none
      (.sequence hlabels (.cons hlabel .nil))
  have hextended : Writes anchored extended m := by
    apply hextend _ _ _ _ _ hentries (List.Perm.refl _)
    intro entry hentry
    obtain rfl := List.mem_singleton.mp hentry
    exact ⟨"unit", by decide, rfl⟩
  have hm := hread _ _ _ hextended
  have hlisted : Part.Holds anchored [("metrics", some (.sequence [extended, toNode m]))] listed :=
    .of_own (List.Perm.refl _) (.cons ⟨rfl, rfl⟩ .nil)
  obtain ⟨d, hd⟩ : ∃ d, Document.ofText? "name: m" = some d :=
    Option.isSome_iff_exists.mp (by decide +kernel)
  refine ⟨hentries, hm, ?_, ?_, d, hd, ((htext (fun _ => []) _ d hd).1 _).mp (by decide +kernel)⟩
  · apply ((hlist _ _ _ _ _ rfl hlisted rfl).2 _).mpr
    exact .cons hm (.cons (hread _ _ _ (hwritten _ _)) .nil)
  · exact (hrefused _ _ _ _ rfl List.mem_cons_self rfl).2

theorem sequence_as_key_is_refused :
    toNode { name := "m" } = .mapping [(.quoted "name", .quoted "m")] ∧
      of? ⟨[], .mapping [(.quoted "name", .quoted "m"), (.sequence [.quoted "a"], .quoted "b")]⟩ =
        none ∧
      ofText (fun _ => []) "name: m" = .ok { name := "m" } ∧
      ofText (fun _ => []) "name: m\n? [a]\n: b" = .error (.yaml []) := by
  refine ⟨rfl, rfl, ?_, ?_⟩ <;> decide +kernel

end MetricDefinition

end Grok
