import Grok.Proofs.Expansion.Path

namespace Grok.Dictionary

def HolesReach (d : Dictionary) (holes : List (Text × Text)) (name : Text) : Prop :=
  ∃ (p : Placeholder) (following : Text), p.Valid ∧ (p.body, following) ∈ holes ∧
    Relation.ReflTransGen d.References p.name name

variable {d : Dictionary} {expression name : Text}

theorem reaches_iff_holesReach :
    d.Reaches expression name ↔ d.HolesReach (Template.ofText expression).holes name := by
  constructor
  · rintro ⟨first, ⟨p, following, hvalid, rfl, hmem⟩, hto⟩
    exact ⟨p, following, hvalid, hmem, hto⟩
  · rintro ⟨p, following, hvalid, hmem, hto⟩
    exact ⟨p.name, ⟨p, following, hvalid, rfl, hmem⟩, hto⟩

namespace HolesReach

variable {body following : Text} {rest : List (Text × Text)} {p : Placeholder}

theorem head (hvalid : p.Valid) (hbody : p.body = body) :
    d.HolesReach ((body, following) :: rest) p.name := by
  subst hbody
  exact ⟨p, following, hvalid, List.mem_cons_self, .refl⟩

theorem below {definition : Text} (hvalid : p.Valid) (hbody : p.body = body)
    (hdef : d.get? p.name = some definition)
    (h : d.HolesReach (Template.ofText definition).holes name) :
    d.HolesReach ((body, following) :: rest) name := by
  subst hbody
  obtain ⟨q, f, hq, hmem, hto⟩ := h
  have href : d.References p.name q.name := ⟨definition, hdef, q, f, hq, rfl, hmem⟩
  exact ⟨p, following, hvalid, List.mem_cons_self, .head href hto⟩

theorem next {hole : Text × Text} (h : d.HolesReach rest name) :
    d.HolesReach (hole :: rest) name := by
  obtain ⟨q, f, hq, hmem, hto⟩ := h
  exact ⟨q, f, hq, List.mem_cons_of_mem _ hmem, hto⟩

end HolesReach

theorem Reaches.induction {P : Text → Prop} (h : d.Reaches expression name)
    (start : ∀ n, Mentions expression n → P n) (step : ∀ a b, P a → d.References a b → P b) :
    P name := by
  obtain ⟨first, hfirst, hto⟩ := h
  induction hto with
  | refl => exact start first hfirst
  | tail hab hbc ih => exact step _ _ ih hbc

theorem Mentions.isPatternName {text : Text} (h : Mentions text name) :
    isPatternName name = true := by
  obtain ⟨p, following, hvalid, rfl, hmem⟩ := h
  exact hvalid.name

theorem Reaches.isPatternName (h : d.Reaches expression name) : isPatternName name = true := by
  apply h.induction
  · intro n hn
    exact Mentions.isPatternName hn
  · rintro a b ha ⟨definition, hdef, hb⟩
    exact Mentions.isPatternName hb

end Grok.Dictionary

namespace Grok

def mentioned (text : Text) : List Text :=
  (Template.ofText text).holes.filterMap fun hole => (Placeholder.parse? hole.1).map (·.name)

theorem mem_mentioned_iff {text name : Text} : name ∈ mentioned text ↔ Mentions text name := by
  unfold mentioned
  rw [List.mem_filterMap]
  constructor
  · rintro ⟨⟨body, following⟩, hmem, hname⟩
    obtain ⟨p, hparse, rfl⟩ := Option.map_eq_some_iff.mp hname
    obtain ⟨hvalid, rfl⟩ := Placeholder.parse?_eq_some_iff.mp hparse
    exact ⟨p, following, hvalid, rfl, hmem⟩
  · rintro ⟨p, following, hvalid, rfl, hmem⟩
    exact ⟨_, hmem, by rw [Placeholder.parse?_complete hvalid, Option.map_some]⟩

theorem Dictionary.Reaches.mem_of_closed {d : Dictionary} {expression name : Text}
    {names : List Text} (h : d.Reaches expression name)
    (start : ∀ n ∈ mentioned expression, n ∈ names)
    (closed : ∀ a ∈ names, ∀ definition, d.get? a = some definition →
      ∀ b ∈ mentioned definition, b ∈ names) : name ∈ names := by
  apply h.induction
  · intro n hn
    exact start n (mem_mentioned_iff.mpr hn)
  · rintro a b ha ⟨definition, hdef, hb⟩
    exact closed a ha definition hdef b (mem_mentioned_iff.mpr hb)

end Grok
