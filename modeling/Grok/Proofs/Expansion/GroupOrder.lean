import Grok.Proofs.Brackets.Opening
import Grok.Proofs.Expansion.Enclosure

namespace Grok

open Brackets

theorem Placeholder.Valid.openings_header {p : Placeholder} (h : p.Valid) (u : Text) :
    openings (p.header ++ u) = (p.group.map some).toList ++ openings u := by
  obtain ⟨inert, hheader, hinert⟩ := h.header_eq
  have hopening : opening? (inert ++ u) = p.group.map some := by
    have htail : inert = p.header.tail := by rw [hheader, List.tail_cons]
    rw [htail, header]
    cases hgroup : p.group with
    | none => rfl
    | some group =>
      have hname := nameBefore?_groupName (u := u) (h.group group hgroup)
      simp [opening?, marked?, hname]
  rw [hheader, List.cons_append, ← openings_append_of_inert (u := u) hinert]
  simp [openings, openingsFrom, hopening, Mode.next]

namespace Layout

def openings : Layout → List (Option Text)
  | .literal t => Brackets.openings t
  | .group lead p inner rest =>
    Brackets.openings lead ++ ((p.group.map some).toList ++ (inner.openings ++ rest.openings))

/-- Whatever a literal text ends with, the parenthesis that follows it cannot complete the opening
of a group, so that the groups of each text can be told from the text alone. -/
theorem Balanced.openings_close {l : Layout} (hl : l.Balanced) {s s' : Scan}
    (hs : s.readTemplate? l.template = some s') (hmode : s.mode = .plain)
    (hmode' : s'.mode = .plain) (u : Text) :
    Brackets.openings (l.text ++ ')' :: u) = l.openings ++ Brackets.openings u := by
  induction l generalizing s s' u with
  | literal t =>
    obtain ⟨s₁, ht, hnil⟩ := Option.bind_eq_some_iff.mp hs
    cases hnil
    rw [Scan.mode_of_readAll? ht, hmode] at hmode'
    exact openings_append_close hmode'
  | group lead p inner rest ihinner ihrest =>
    obtain ⟨hvalid, ⟨si, hsi, -, hplain'⟩, hinner, hrest⟩ := hl
    obtain ⟨s₁, hlead, hplain, hnext⟩ := readTemplate?_group hs
    have hinner' := ihinner hinner hsi rfl hplain' (rest.text ++ ')' :: u)
    have hrest' := ihrest hrest hnext hplain hmode' u
    rw [Scan.mode_of_readAll? hlead, hmode] at hplain
    obtain ⟨inert, hheader, -⟩ := hvalid.header_eq
    calc Brackets.openings ((Layout.group lead p inner rest).text ++ ')' :: u)
        = Brackets.openings (lead ++ (p.header ++ (inner.text ++ ')' :: (rest.text ++ ')' :: u)))) := by
          simp [text, Placeholder.wrap_eq_header_append]
      _ = Brackets.openings lead ++
            Brackets.openings (p.header ++ (inner.text ++ ')' :: (rest.text ++ ')' :: u))) := by
          rw [hheader, List.cons_append]
          exact openings_append_open hplain
      _ = (Layout.group lead p inner rest).openings ++ Brackets.openings u := by
          rw [hvalid.openings_header, hinner', hrest', openings]
          simp

theorem Balanced.openings_text {l : Layout} (hl : l.Balanced) (h : SelfContained l.template) :
    Brackets.openings l.text = l.openings := by
  obtain ⟨s, hs, -, hmode⟩ := h
  have hclose := hl.openings_close hs rfl hmode []
  rw [openings_concat_close] at hclose
  rw [hclose]
  exact List.append_nil _

end Layout

namespace Compiler

/-- If the brackets of an expression and of the definitions that it leads to are balanced, then its
expansion opens the groups of its layout, in their order. With groups numbered by their openings,
each name of a compiled expression belongs to the last group of the layout that has it. -/
theorem groups_numbered_in_layout_order (c : Compiler) {expression out : Text}
    (hexpand : c.expand expression = .ok out)
    (hself : SelfContained (Template.ofText expression))
    (hdefs : ∀ name definition, c.dictionary.Reaches expression name →
      c.dictionary.get? name = some definition → SelfContained (Template.ofText definition)) :
    (∃ l, c.dictionary.LaysOut expression l) ∧
      ∀ l, c.dictionary.LaysOut expression l → l.text = out ∧ openings out = l.openings ∧
        ∀ p, (c.compile expression).result = .ok p → p.regex.NumbersByOpening →
          ∀ name, p.group? name = lastNumber? name l.openings ∧
            (name ∈ p.groupNames ↔ some name ∈ l.openings) := by
  obtain ⟨l, hl, htext⟩ := Dictionary.exists_layout_of_expand (expand_eq_ok_iff.mp hexpand)
  have hbalanced : l.Balanced := hl.balanced hdefs
  refine ⟨⟨l, hl⟩, ?_⟩
  intro l' hl'
  obtain rfl := hl'.unique hl
  rw [← hl.1] at hself
  have hopenings : openings out = l'.openings := by
    rw [← htext]
    exact hbalanced.openings_text hself
  refine ⟨htext, hopenings, ?_⟩
  intro p hp hnumbers name
  have hsource : p.source = out := source_of_compile hexpand hp
  have hgroup := Pattern.group?_eq_lastNumber? hnumbers name
  have hnames := Pattern.mem_groupNames_iff hnumbers name
  rw [hsource, hopenings] at hgroup hnames
  exact ⟨hgroup, hnames⟩

theorem nested_group_behind_literal_group :
    let c : Compiler :=
      { dictionary := .ofList
          [("PAIR", "%{KEY:_}=(?<__>%{NUM})"), ("KEY", "[a-z]+"), ("NUM", "[0-9]+")]
        engine := Regex.Dialect.linear.terse }
    c.expand "(;|,)%{PAIR:___}" = .ok "(;|,)(?P<___>(?P<_>[a-z]+)=(?<__>(?:[0-9]+)))" ∧
      SelfContained (Template.ofText "(;|,)%{PAIR:___}") ∧
      (∀ name definition, c.dictionary.Reaches "(;|,)%{PAIR:___}" name →
        c.dictionary.get? name = some definition → SelfContained (Template.ofText definition)) ∧
      ∃ p, (c.compile "(;|,)%{PAIR:___}").result = .ok p ∧ p.regex.NumbersByOpening ∧
        p.group? "_" = some 3 := by
  intro c
  have hexpand : c.expand "(;|,)%{PAIR:___}" =
      .ok "(;|,)(?P<___>(?P<_>[a-z]+)=(?<__>(?:[0-9]+)))" := by cbv
  have hself : SelfContained (Template.ofText "(;|,)%{PAIR:___}") := of_decide_eq_true (by cbv)
  have hall : c.dictionary.AllSelfContained := of_decide_eq_true (by cbv)
  have hdefs : ∀ name definition, c.dictionary.Reaches "(;|,)%{PAIR:___}" name →
      c.dictionary.get? name = some definition → SelfContained (Template.ofText definition) :=
    fun name definition hreaches hdef => hall.of_get? hdef
  have hcompile : (Regex.compile? .linear "(;|,)(?P<___>(?P<_>[a-z]+)=(?<__>(?:[0-9]+)))").map
      (·.names) =
      some (none :: keepLast (openings "(;|,)(?P<___>(?P<_>[a-z]+)=(?<__>(?:[0-9]+)))")) := by
    decide +kernel
  obtain ⟨r, hr, hnames⟩ := Option.map_eq_some_iff.mp hcompile
  have hresult : (c.compile "(;|,)%{PAIR:___}").result = .ok ⟨"(;|,)%{PAIR:___}", r⟩ :=
    result_compile_of_dialect rfl hexpand hr
  have hnumbers : r.NumbersByOpening := by
    rw [Regex.NumbersByOpening, Regex.source_of_compile? hr]
    exact hnames
  obtain ⟨⟨l, hl⟩, hlayout⟩ := groups_numbered_in_layout_order c hexpand hself hdefs
  obtain ⟨-, hopenings, hgroups⟩ := hlayout l hl
  refine ⟨hexpand, hself, hdefs, _, hresult, hnumbers, ?_⟩
  rw [(hgroups _ hresult hnumbers "_").1, ← hopenings]
  decide +kernel

end Compiler

end Grok
