import Grok.Proofs.Brackets.Scan
import Grok.Proofs.Expansion.Layout
import Grok.Proofs.Expansion.Reachability

namespace Grok

open Brackets

namespace Placeholder

theorem Valid.header_eq {p : Placeholder} (h : p.Valid) :
    ∃ inert, p.header = '(' :: inert ∧ Inert inert := by
  unfold header
  cases hgroup : p.group with
  | none => exact ⟨['?', ':'], rfl, by simp [Inert]⟩
  | some group =>
    refine ⟨['?', 'P', '<'] ++ (group ++ ['>']), by simp, ?_⟩
    unfold Inert
    rw [List.forall_mem_append, List.forall_mem_append]
    refine ⟨by simp, ?_, by simp⟩
    intro c hc
    have hword := isWordChar_of_mem_groupName (h.group group hgroup) hc
    refine ⟨?_, ?_, ?_, ?_⟩
    all_goals
      rintro rfl
      exact absurd hword (by decide)

theorem readAll?_header {p : Placeholder} (h : p.Valid) {s : Scan} (hs : s.mode = .plain) :
    s.readAll? p.header =
      some ⟨s.position + p.header.length, s.position :: s.opened, .plain⟩ := by
  obtain ⟨inert, hheader, hinert⟩ := h.header_eq
  rw [hheader, Scan.readAll?, Scan.read?_open hs, Option.bind_some, Scan.readAll?_inert rfl hinert]
  simp only [List.length_cons, Option.some.injEq, Scan.mk.injEq, and_true]
  omega

end Placeholder

theorem Brackets.Scan.Neutral.wrap {p : Placeholder} (hp : p.Valid) {u : Text}
    (h : Scan.Neutral u) : Scan.Neutral (p.wrap u) := by
  intro t ht
  have hclose : ∀ s : Scan, s.mode = .plain → s.opened = t.position :: t.opened →
      s.readAll? [')'] = some ⟨s.position + 1, t.opened, .plain⟩ := by
    intro s hs hopened
    rw [Scan.readAll?_singleton, Scan.read?_close hs hopened]
  rw [Placeholder.wrap_eq_header_append, Scan.readAll?_append_of_eq (p.readAll?_header hp ht),
    Scan.readAll?_append_of_eq (h _ rfl), hclose _ rfl rfl]
  simp only [List.length_append, List.length_singleton, Option.some.injEq, Scan.mk.injEq, and_true]
  omega

namespace Layout

def Balanced : Layout → Prop
  | .literal _ => True
  | .group _ p inner rest =>
    p.Valid ∧ SelfContained inner.template ∧ inner.Balanced ∧ rest.Balanced

variable {l inner rest : Layout} {lead : Text} {p : Placeholder} {s s' t : Scan}
  {outer : List Nat}

theorem Follows.balanced {d : Dictionary} (h : l.Follows d)
    (hdefs : ∀ name definition, d.HolesReach l.template.holes name →
      d.get? name = some definition → SelfContained (Template.ofText definition)) :
    l.Balanced := by
  induction l with
  | literal t => trivial
  | group lead p inner rest ihinner ihrest =>
    obtain ⟨hvalid, ⟨definition, hdef, htemplate⟩, hinner, hrest⟩ := h
    refine ⟨hvalid, ?_, ihinner hinner ?_, ihrest hrest ?_⟩
    · rw [htemplate]
      exact hdefs p.name definition (.head hvalid rfl) hdef
    · rw [htemplate]
      intro name definition' hname hdef'
      exact hdefs name definition' (.below hvalid rfl hdef hname) hdef'
    · intro name definition' hname hdef'
      exact hdefs name definition' hname.next hdef'

theorem readTemplate?_group
    (h : s.readTemplate? (Layout.group lead p inner rest).template = some s') :
    ∃ s₁, s.readAll? lead = some s₁ ∧ s₁.mode = .plain ∧
      (s₁.skip (Placeholder.written p.body).length).readTemplate? rest.template = some s' := by
  obtain ⟨s₁, hlead, hholes⟩ := Option.bind_eq_some_iff.mp h
  simp only [template, Scan.readHoles?, Option.ite_none_right_eq_some] at hholes
  exact ⟨s₁, hlead, hholes.1, hholes.2⟩

theorem Balanced.within (hl : l.Balanced) (hs : s.readTemplate? l.template = some s')
    (ht : Scan.Within outer s t) : ∃ t', t.readAll? l.text = some t' ∧ Scan.Within outer s' t' := by
  induction l generalizing s s' t outer with
  | literal u =>
    obtain ⟨s₁, hu, hnil⟩ := Option.bind_eq_some_iff.mp hs
    cases hnil
    exact ht.readAll? hu
  | group lead p inner rest ihinner ihrest =>
    obtain ⟨hvalid, ⟨si, hsi, hopened, hmode⟩, hinner, hrest⟩ := hl
    obtain ⟨s₁, hlead, hplain, hnext⟩ := readTemplate?_group hs
    obtain ⟨t₁, ht₁, hwithin⟩ := ht.readAll? hlead
    have hneutral : Scan.Neutral inner.text :=
      .of_within hopened hmode fun t ht => ihinner hinner hsi (.start ht rfl)
    have hwrap := hneutral.wrap hvalid t₁ (hwithin.mode.trans hplain)
    obtain ⟨t', ht', hwithin'⟩ := ihrest hrest hnext (hwithin.move hplain _ _)
    refine ⟨t', ?_, hwithin'⟩
    rw [text, Scan.readAll?_append_of_eq ht₁, Scan.readAll?_append_of_eq hwrap]
    exact ht'

theorem Balanced.neutral (hl : l.Balanced) (h : SelfContained l.template) :
    Scan.Neutral l.text := by
  obtain ⟨s, hs, hopened, hmode⟩ := h
  exact .of_within hopened hmode fun t ht => hl.within hs (.start ht rfl)

theorem Balanced.open_at_closing (hl : l.Balanced)
    (hs : s.readTemplate? l.template = some s') (ht : Scan.Within outer s t) {site : Site}
    (hsite : site ∈ l.sites) :
    ∃ t' around, t.readAll? site.upToClosing = some t' ∧ t'.mode = .plain ∧
      t'.opened = (t.position + site.opening) :: around := by
  induction l generalizing s s' t outer site with
  | literal u => cases hsite
  | group lead p inner rest ihinner ihrest =>
    obtain ⟨hvalid, hself, hinner, hrest⟩ := hl
    obtain ⟨s₁, hlead, hplain, hnext⟩ := readTemplate?_group hs
    obtain ⟨t₁, ht₁, hwithin⟩ := ht.readAll? hlead
    have hplain₁ : t₁.mode = .plain := hwithin.mode.trans hplain
    have hposition := Scan.position_of_readAll? ht₁
    have hheader := p.readAll?_header hvalid hplain₁
    have hneutral := hinner.neutral hself
    rw [sites, List.mem_cons, List.mem_append, List.mem_map, List.mem_map] at hsite
    -- the first group itself, one inside it, or one behind it
    rcases hsite with rfl | ⟨site, hsite, rfl⟩ | ⟨site, hsite, rfl⟩
    · have hread : t.readAll? (lead ++ (p.header ++ inner.text)) =
          some ⟨t₁.position + p.header.length + inner.text.length, t₁.position :: t₁.opened,
            .plain⟩ := by
        rw [Scan.readAll?_append_of_eq ht₁, Scan.readAll?_append_of_eq hheader, hneutral _ rfl]
      exact ⟨_, t₁.opened, hread, rfl, by rw [hposition, Site.opening]⟩
    · obtain ⟨si, hsi, -, -⟩ := hself
      have hstart : Scan.Within (t₁.position :: t₁.opened) {}
          ⟨t₁.position + p.header.length, t₁.position :: t₁.opened, .plain⟩ := .start rfl rfl
      obtain ⟨t', around, hread, hmode, hopened⟩ := ihinner hinner hsi hstart hsite
      refine ⟨t', around, ?_, hmode, ?_⟩
      · rw [Site.upToClosing_within, List.append_assoc, Scan.readAll?_append_of_eq ht₁,
          Scan.readAll?_append_of_eq hheader]
        exact hread
      · rw [hopened, hposition, Site.opening_within, List.length_append, Nat.add_assoc,
          Nat.add_assoc, Nat.add_assoc]
    · have hwrap := hneutral.wrap hvalid t₁ hplain₁
      obtain ⟨t', around, hread, hmode, hopened⟩ :=
        ihrest hrest hnext (hwithin.move hplain _ _) hsite
      refine ⟨t', around, ?_, hmode, ?_⟩
      · rw [Site.upToClosing_within, List.append_assoc, Scan.readAll?_append_of_eq ht₁,
          Scan.readAll?_append_of_eq hwrap]
        exact hread
      · rw [hopened, hposition, Site.opening_within, List.length_append, Nat.add_assoc,
          Nat.add_assoc, Nat.add_assoc]

theorem Balanced.closes (hl : l.Balanced) (h : SelfContained l.template) {site : Site}
    (hsite : site ∈ l.sites) : Closes l.text site.opening site.closing := by
  obtain ⟨s, hs, -, -⟩ := h
  have hstart : Scan.Within [] {} {} := .start rfl rfl
  obtain ⟨t, around, hread, hmode, hopened⟩ := hl.open_at_closing hs hstart hsite
  rw [← text_of_mem_sites hsite, Site.text_eq_upToClosing]
  refine ⟨t, around, ?_, hmode, ?_, ?_⟩
  · rw [Site.closing, List.take_left]
    exact hread
  · rw [hopened]
    congr 1
    exact Nat.zero_add _
  · rw [Site.closing, List.getElem?_append_right (le_refl _), Nat.sub_self]
    rfl

theorem Balanced.neutral_inner (hl : l.Balanced) {site : Site} (hsite : site ∈ l.sites) :
    Scan.Neutral site.inner := by
  induction l generalizing site with
  | literal u => cases hsite
  | group lead p inner rest ihinner ihrest =>
    obtain ⟨hvalid, hself, hinner, hrest⟩ := hl
    rw [sites, List.mem_cons, List.mem_append, List.mem_map, List.mem_map] at hsite
    rcases hsite with rfl | ⟨site, hsite, rfl⟩ | ⟨site, hsite, rfl⟩
    · exact hinner.neutral hself
    · have hneutral := ihinner hinner hsite
      exact hneutral
    · have hneutral := ihrest hrest hsite
      exact hneutral

end Layout

theorem Dictionary.LaysOut.balanced {d : Dictionary} {text : Text} {l : Layout}
    (h : d.LaysOut text l)
    (hdefs : ∀ name definition, d.Reaches text name → d.get? name = some definition →
      SelfContained (Template.ofText definition)) : l.Balanced := by
  obtain ⟨htemplate, hfollows⟩ := h
  apply hfollows.balanced
  intro name definition hname
  rw [htemplate] at hname
  exact hdefs name definition (reaches_iff_holesReach.mpr hname)

namespace Dictionary

def AllSelfContained (d : Dictionary) : Prop :=
  ∀ entry ∈ d.entries, SelfContained (Template.ofText entry.2)

instance (d : Dictionary) : Decidable d.AllSelfContained :=
  inferInstanceAs (Decidable (∀ entry ∈ d.entries, SelfContained (Template.ofText entry.2)))

theorem AllSelfContained.of_get? {d : Dictionary} {name definition : Text}
    (h : d.AllSelfContained) (hdef : d.get? name = some definition) :
    SelfContained (Template.ofText definition) := by
  obtain ⟨entry, hfind, rfl⟩ := Option.map_eq_some_iff.mp hdef
  exact h entry (List.mem_of_find?_eq_some hfind)

end Dictionary

namespace Compiler

/-- If the brackets of an expression and of the definitions that it leads to are balanced, then so
are those of its expansion, and each group of the expansion is closed by its own parenthesis. -/
theorem expansion_keeps_brackets_apart (c : Compiler) {expression out : Text}
    (hexpand : c.expand expression = .ok out)
    (hself : SelfContained (Template.ofText expression))
    (hdefs : ∀ name definition, c.dictionary.Reaches expression name →
      c.dictionary.get? name = some definition → SelfContained (Template.ofText definition)) :
    SelfContained ⟨out, []⟩ ∧ (∃ l, c.dictionary.LaysOut expression l) ∧
      ∀ l, c.dictionary.LaysOut expression l → l.text = out ∧
        ∀ site ∈ l.sites, site.text = out ∧ Closes out site.opening site.closing ∧
          SelfContained ⟨site.inner, []⟩ := by
  obtain ⟨l, hl, htext⟩ := Dictionary.exists_layout_of_expand (expand_eq_ok_iff.mp hexpand)
  have hbalanced : l.Balanced := hl.balanced hdefs
  rw [← hl.1] at hself
  refine ⟨?_, ⟨l, hl⟩, ?_⟩
  · rw [← htext]
    exact (hbalanced.neutral hself).selfContained
  · intro l' hl'
    obtain rfl := hl'.unique hl
    refine ⟨htext, ?_⟩
    rintro site hsite
    refine ⟨(Layout.text_of_mem_sites hsite).trans htext, ?_, ?_⟩
    · rw [← htext]
      exact hbalanced.closes hself hsite
    · exact (hbalanced.neutral_inner hsite).selfContained

theorem alternatives_with_inert_brackets :
    let c : Compiler :=
      { dictionary := .ofList [("ALT", "a|b(c%{SET:s})\\)"), ("SET", "[()x]+|\\[")]
        engine := Regex.Dialect.backtracking.terse }
    let out : Text := "^((?:a|b(c(?P<s>[()x]+|\\[))\\)))|\\((?:[()x]+|\\[)[)]$"
    c.expand "^(%{ALT})|\\(%{SET}[)]$" = .ok out ∧
      SelfContained (Template.ofText "^(%{ALT})|\\(%{SET}[)]$") ∧
      (∀ name definition, c.dictionary.Reaches "^(%{ALT})|\\(%{SET}[)]$" name →
        c.dictionary.get? name = some definition → SelfContained (Template.ofText definition)) ∧
      SelfContained ⟨out, []⟩ ∧
      ∃ l, c.dictionary.LaysOut "^(%{ALT})|\\(%{SET}[)]$" l ∧
        ∀ site ∈ l.sites, Closes out site.opening site.closing := by
  intro c out
  have hexpand : c.expand "^(%{ALT})|\\(%{SET}[)]$" = .ok out := by cbv
  have hself : SelfContained (Template.ofText "^(%{ALT})|\\(%{SET}[)]$") :=
    of_decide_eq_true (by cbv)
  have hall : c.dictionary.AllSelfContained := of_decide_eq_true (by cbv)
  have hdefs : ∀ name definition, c.dictionary.Reaches "^(%{ALT})|\\(%{SET}[)]$" name →
      c.dictionary.get? name = some definition → SelfContained (Template.ofText definition) :=
    fun name definition hreaches hdef => hall.of_get? hdef
  obtain ⟨hout, ⟨l, hl⟩, hsites⟩ := expansion_keeps_brackets_apart c hexpand hself hdefs
  exact ⟨hexpand, hself, hdefs, hout, l, hl, fun site hsite => ((hsites l hl).2 site hsite).2.1⟩

end Compiler

end Grok
