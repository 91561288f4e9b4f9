import Grok.Proofs.Expansion.Derivation

/-!
What an expansion writes, with the groups of its placeholders told apart from literal text. The
literal texts of a layout are those of the expression and of the definitions, each as it stands, and
each group is around the layout of the definition of its pattern.
-/

namespace Grok

namespace Placeholder

def header (p : Placeholder) : Text :=
  match p.group with
  | none => "(?:"
  | some group => "(?P<" ++ group ++ ">"

theorem wrap_eq_header_append (p : Placeholder) (expanded : Text) :
    p.wrap expanded = p.header ++ (expanded ++ [')']) := by
  unfold wrap header
  cases p.group with
  | none => simp
  | some group => simp

theorem head?_wrap (p : Placeholder) (expanded : Text) : (p.wrap expanded).head? = some '(' := by
  unfold wrap
  cases p.group with
  | none => rfl
  | some group => rfl

theorem getLast?_wrap (p : Placeholder) (expanded : Text) :
    (p.wrap expanded).getLast? = some ')' := by
  rw [wrap_eq_header_append, ← List.append_assoc, List.getLast?_concat]

theorem Valid.percent_not_mem_header {p : Placeholder} (h : p.Valid) : '%' ∉ p.header := by
  unfold header
  cases hgroup : p.group with
  | none => simp
  | some group =>
    have hname : '%' ∉ group := fun hmem =>
      absurd (isWordChar_of_mem_groupName (h.group group hgroup) hmem) (by decide)
    simp [hname]

end Placeholder

/-- Literal text, then either the end, or the group of a placeholder and what follows it. -/
inductive Layout where
  | literal (text : Text)
  | group (lead : Text) (p : Placeholder) (inner rest : Layout)
deriving DecidableEq, Repr

structure Site where
  before : Text
  placeholder : Placeholder
  inner : Text
  after : Text

namespace Site

def text (s : Site) : Text := s.before ++ (s.placeholder.wrap s.inner ++ s.after)

def upToClosing (s : Site) : Text := s.before ++ (s.placeholder.header ++ s.inner)

def opening (s : Site) : Nat := s.before.length

def closing (s : Site) : Nat := s.upToClosing.length

def within (s : Site) (before after : Text) : Site :=
  { s with before := before ++ s.before, after := s.after ++ after }

theorem text_eq_upToClosing (s : Site) : s.text = s.upToClosing ++ ')' :: s.after := by
  simp [text, upToClosing, Placeholder.wrap_eq_header_append]

theorem text_within (s : Site) (before after : Text) :
    (s.within before after).text = before ++ (s.text ++ after) := by
  simp [text, within]

theorem upToClosing_within (s : Site) (before after : Text) :
    (s.within before after).upToClosing = before ++ s.upToClosing := by
  simp [upToClosing, within]

theorem opening_within (s : Site) (before after : Text) :
    (s.within before after).opening = before.length + s.opening := by
  simp [opening, within]

end Site

namespace Layout

def text : Layout → Text
  | .literal t => t
  | .group lead p inner rest => lead ++ (p.wrap inner.text ++ rest.text)

def template : Layout → Template
  | .literal t => ⟨t, []⟩
  | .group lead p _ rest => ⟨lead, (p.body, rest.template.lead) :: rest.template.holes⟩

def sites : Layout → List Site
  | .literal _ => []
  | .group lead p inner rest =>
    ⟨lead, p, inner.text, rest.text⟩ ::
      (inner.sites.map (·.within (lead ++ p.header) (')' :: rest.text)) ++
        rest.sites.map (·.within (lead ++ p.wrap inner.text) []))

def Follows (d : Dictionary) : Layout → Prop
  | .literal _ => True
  | .group _ p inner rest =>
    p.Valid ∧
      (∃ definition, d.get? p.name = some definition ∧
        inner.template = Template.ofText definition) ∧
      inner.Follows d ∧ rest.Follows d

theorem text_of_mem_sites {l : Layout} {s : Site} (h : s ∈ l.sites) : s.text = l.text := by
  induction l generalizing s with
  | literal t => cases h
  | group lead p inner rest ihinner ihrest =>
    rw [sites, List.mem_cons, List.mem_append, List.mem_map, List.mem_map] at h
    rcases h with rfl | ⟨s, hs, rfl⟩ | ⟨s, hs, rfl⟩
    · rfl
    · rw [Site.text_within, ihinner hs]
      simp [text, Placeholder.wrap_eq_header_append]
    · rw [Site.text_within, ihrest hs]
      simp [text]

end Layout

namespace Dictionary

/-- The layout of a text, down to the definitions that refer to no other pattern. -/
def LaysOut (d : Dictionary) (text : Text) (l : Layout) : Prop :=
  l.template = Template.ofText text ∧ l.Follows d

variable {d : Dictionary} {limit : Nat}

theorem LaysOut.unique {text : Text} {l l' : Layout} (h : d.LaysOut text l)
    (h' : d.LaysOut text l') : l = l' := by
  obtain ⟨htemplate, hfollows⟩ := h
  obtain ⟨htemplate', hfollows'⟩ := h'
  have heq : l.template = l'.template := htemplate.trans htemplate'.symm
  clear htemplate htemplate'
  induction l generalizing l' with
  | literal t =>
    cases l' with
    | literal t' =>
      cases heq
      rfl
    | group lead' p' inner' rest' => cases heq
  | group lead p inner rest ihinner ihrest =>
    cases l' with
    | literal t' => cases heq
    | group lead' p' inner' rest' =>
      obtain ⟨hvalid, ⟨definition, hdef, hinner⟩, hbelow, hnext⟩ := hfollows
      obtain ⟨hvalid', ⟨definition', hdef', hinner'⟩, hbelow', hnext'⟩ := hfollows'
      simp only [Layout.template, Template.mk.injEq, List.cons.injEq, Prod.mk.injEq] at heq
      obtain ⟨rfl, ⟨hbody, hlead⟩, hholes⟩ := heq
      obtain rfl : p = p' := hvalid.eq_of_body_eq hvalid' hbody
      obtain rfl : definition = definition' := Option.some.inj (hdef.symm.trans hdef')
      rw [ihinner hbelow hbelow' (hinner.trans hinner'.symm),
        ihrest hnext hnext' (congrArg₂ Template.mk hlead hholes)]

theorem Fills.exists_layout {holes : List (Text × Text)} {out : Text} {height : Nat}
    (h : d.Fills holes out height) (lead : Text) :
    ∃ l : Layout, l.template = ⟨lead, holes⟩ ∧ l.Follows d ∧ l.text = lead ++ out := by
  induction h generalizing lead with
  | nil => exact ⟨.literal lead, rfl, trivial, (List.append_nil lead).symm⟩
  | @cons p body following definition inner out rest below height hvalid hbody hdef hinner hrest
      ihinner ihrest =>
    obtain ⟨linner, htemplate, hfollows, htext⟩ := ihinner (Template.ofText definition).lead
    obtain ⟨lrest, htemplate', hfollows', htext'⟩ := ihrest following
    refine ⟨.group lead p linner lrest, ?_, ⟨hvalid, ⟨definition, hdef, htemplate⟩, hfollows,
      hfollows'⟩, ?_⟩
    · rw [Layout.template, htemplate', hbody]
    · rw [Layout.text, htext, htext']
      simp

theorem exists_layout_of_expand {expression out : Text}
    (h : d.expand limit expression = .ok out) :
    ∃ l : Layout, d.LaysOut expression l ∧ l.text = out := by
  obtain ⟨height, -, filled, hfills, hout⟩ := expand_eq_ok_iff_expands.mp h
  obtain ⟨l, htemplate, hfollows, htext⟩ := hfills.exists_layout (Template.ofText expression).lead
  exact ⟨l, ⟨htemplate, hfollows⟩, htext.trans hout⟩

end Dictionary

end Grok
