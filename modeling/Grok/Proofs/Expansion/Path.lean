import Grok.Proofs.Expansion.Step

/-!
The paths of an expansion. A pattern gets onto the path through a placeholder for it in the text at
hand, and only if it is not on the path yet. So the path is a simple path in the graph of
references between the patterns of the dictionary, and it is not longer than the dictionary.
-/

namespace Grok

def Mentions (text name : Text) : Prop :=
  ∃ (p : Placeholder) (following : Text), p.Valid ∧ p.name = name ∧
    (p.body, following) ∈ (Template.ofText text).holes

namespace Dictionary

def References (d : Dictionary) (a b : Text) : Prop :=
  ∃ definition, d.get? a = some definition ∧ Mentions definition b

def Reaches (d : Dictionary) (expression name : Text) : Prop :=
  ∃ first, Mentions expression first ∧ Relation.ReflTransGen d.References first name

inductive Trail (d : Dictionary) (limit : Nat) (expression : Text) : List Text → Text → Prop
  | start : Trail d limit expression [] expression
  | enter {path : List Text} {text body following definition : Text} {p : Placeholder}
      (htrail : Trail d limit expression path text)
      (hhole : (body, following) ∈ (Template.ofText text).holes)
      (henter : Occurrence.Enters d limit ⟨path, text, body⟩ p definition) :
      Trail d limit expression (p.name :: path) definition

variable {d : Dictionary} {limit : Nat} {expression : Text} {path : List Text} {text : Text}

theorem mentions_of_hole {body following : Text} {p : Placeholder} (hvalid : p.Valid)
    (hbody : p.body = body) (hhole : (body, following) ∈ (Template.ofText text).holes) :
    Mentions text p.name := by
  subst hbody
  exact ⟨p, following, hvalid, rfl, hhole⟩

theorem length_le_size {names : List Text} (hnodup : names.Nodup)
    (hnames : ∀ name ∈ names, name ∈ d.names) : names.length ≤ d.size := by
  have hle := (List.subperm_of_subset hnodup hnames).length_le
  rw [Dictionary.names, List.length_map] at hle
  exact hle

namespace Trail

theorem nodup (h : d.Trail limit expression path text) : path.Nodup := by
  induction h with
  | start => exact List.nodup_nil
  | enter htrail hhole henter ih => exact List.nodup_cons.mpr ⟨henter.fresh, ih⟩

theorem mem_names (h : d.Trail limit expression path text) : ∀ name ∈ path, name ∈ d.names := by
  induction h with
  | start => simp
  | enter htrail hhole henter ih =>
    intro name hname
    rcases List.mem_cons.mp hname with rfl | hname
    · exact mem_names_of_get? henter.defined
    · exact ih name hname

theorem length_le_limit (h : d.Trail limit expression path text) : path.length ≤ limit := by
  cases h with
  | start => exact Nat.zero_le limit
  | enter htrail hhole henter => exact henter.shallow

theorem isChain_cons (h : d.Trail limit expression path text) {name : Text}
    (hname : Mentions text name) :
    (name :: path).IsChain fun inner outer => d.References outer inner := by
  induction h generalizing name with
  | start => exact List.isChain_singleton name
  | enter htrail hhole henter ih =>
    have hchain := ih (mentions_of_hole henter.valid henter.body hhole)
    exact List.isChain_cons_cons.mpr ⟨⟨_, henter.defined, hname⟩, hchain⟩

theorem reaches (h : d.Trail limit expression path text) {name : Text}
    (hname : Mentions text name) : d.Reaches expression name := by
  induction h generalizing name with
  | start => exact ⟨name, hname, .refl⟩
  | enter htrail hhole henter ih =>
    obtain ⟨first, hfirst, hto⟩ := ih (mentions_of_hole henter.valid henter.body hhole)
    exact ⟨first, hfirst, hto.tail ⟨_, henter.defined, hname⟩⟩

end Trail

theorem exists_fault_of_expandHoles {holes : List (Text × Text)} {e : ExpansionError}
    (h : d.expandHoles limit path text holes = .error e)
    (htrail : d.Trail limit expression path text)
    (hholes : ∀ hole ∈ holes, hole ∈ (Template.ofText text).holes) :
    ∃ (o : Occurrence) (following : Text), d.Trail limit expression o.path o.text ∧
      (o.body, following) ∈ (Template.ofText o.text).holes ∧ o.Fault d limit e := by
  induction path, text, holes using expandHoles_induction d limit with
  | nil path text =>
    rw [expandHoles_nil] at h
    cases h
  | fault path text body following rest e' hfault =>
    rw [expandHoles_of_fault hfault] at h
    cases h
    exact ⟨⟨path, text, body⟩, following, htrail, hholes _ List.mem_cons_self, hfault⟩
  | enter path text body following rest p definition henter ihinner ihrest =>
    rcases (expandHoles_enters_error_iff henter).mp h with hinner | ⟨filled, hinner, hrest⟩
    · have hdefinition := Trail.enter htrail (hholes _ List.mem_cons_self) henter
      exact ihinner hinner hdefinition fun _ hole => hole
    · exact ihrest hrest htrail fun hole hmem => hholes hole (List.mem_cons_of_mem _ hmem)

theorem exists_fault_of_expand {e : ExpansionError} (h : d.expand limit expression = .error e) :
    ∃ (o : Occurrence) (following : Text), d.Trail limit expression o.path o.text ∧
      (o.body, following) ∈ (Template.ofText o.text).holes ∧ o.Fault d limit e :=
  exists_fault_of_expandHoles (expandWithin_eq_error_iff.mp h) .start fun _ hole => hole

theorem expand_ne_invalidPlaceholder {p : Placeholder} (hp : p.Valid) (origin : Origin) :
    d.expand limit expression ≠
      .error (.invalidPlaceholder ⟨origin, Placeholder.written p.body⟩) := by
  intro h
  obtain ⟨o, -, -, -, hfault⟩ := exists_fault_of_expand h
  generalize hplace : Place.mk origin (Placeholder.written p.body) = place at hfault
  cases hfault with
  | invalid hbody =>
    apply hbody p hp
    apply Placeholder.written_injective
    exact congrArg Place.token hplace

theorem expand_ne_undefinedPattern {name : Text} (hname : name ∈ d.names) (place : Place) :
    d.expand limit expression ≠ .error (.undefinedPattern name place) := by
  intro h
  obtain ⟨o, -, -, -, hfault⟩ := exists_fault_of_expand h
  cases hfault with
  | undefined hvalid hbody hundefined => exact hundefined hname

/-- A limit that is not smaller than the dictionary is never reached: the path would have to hold
all patterns and one more. -/
theorem expand_ne_tooDeep (hsize : d.size ≤ limit) (n : Nat) (place : Place) :
    d.expand limit expression ≠ .error (.tooDeep n place) := by
  intro h
  obtain ⟨o, following, htrail, hhole, hfault⟩ := exists_fault_of_expand h
  cases hfault with
  | tooDeep hvalid hbody hname hpath hlimit =>
    have hnodup := List.nodup_cons.mpr ⟨hpath, htrail.nodup⟩
    have hsubset := List.cons_subset.mpr ⟨hname, htrail.mem_names⟩
    have hle := length_le_size hnodup hsubset
    rw [List.length_cons] at hle
    omega

end Dictionary

end Grok
