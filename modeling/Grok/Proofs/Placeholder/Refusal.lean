import Grok.Proofs.Placeholder.Grammar

namespace Grok

namespace Placeholder

open Text

/-- The grammar of bodies: the name of a pattern, alone or with a colon and the name of a group. -/
inductive Spelled : Text → Placeholder → Prop
  | name {name : Text} (hname : name.IsWord) : Spelled name ⟨name, none⟩
  | group {name group : Text} (hname : name.IsWord) (hgroup : group.IsIdentifier) :
      Spelled (name ++ ':' :: group) ⟨name, some group⟩

inductive Faulty (body : Text) : Prop
  | noName (h : body = [] ∨ body.head? = some ':')
  | noGroup (h : body.getLast? = some ':')
  | secondColon (h : 1 < body.count ':')
  | leadingDigit {before after : Text} {c : Char} (h : body = before ++ ':' :: c :: after)
      (hdigit : '0' ≤ c ∧ c ≤ '9')
  | otherChar {c : Char} (hmem : c ∈ body) (hcolon : c ≠ ':') (hother : ¬IsWord [c])

variable {body name group rest before after : Text} {c : Char} {p q : Placeholder}

theorem isWord_singleton_iff : IsWord [c] ↔ isWordChar c = true := by
  rw [← isPatternName_iff]
  simp [isPatternName]

theorem isWord_iff_forall : name.IsWord ↔ name ≠ [] ∧ ∀ c ∈ name, IsWord [c] := by
  simp only [isWord_singleton_iff, isWordChar_iff]
  rfl

theorem isGroupStart_iff : isGroupStart c = true ↔ isWordChar c = true ∧ ¬('0' ≤ c ∧ c ≤ '9') := by
  simp only [isGroupStart, isWordChar, Char.isAlphanum, Char.isAlpha, Char.isUpper, Char.isLower,
    Char.isDigit, Bool.or_eq_true, Bool.and_eq_true, decide_eq_true_eq, beq_iff_eq, Char.le_def,
    Char.ext_iff]
  grind

theorem isIdentifier_cons_iff : IsIdentifier (c :: rest) ↔
    IsWord [c] ∧ ¬('0' ≤ c ∧ c ≤ '9') ∧ ∀ x ∈ rest, IsWord [x] := by
  simp only [isWord_singleton_iff, ← and_assoc, ← isGroupStart_iff]
  simp [← isGroupName_iff, isGroupName]

theorem isWord_of_isIdentifier (h : group.IsIdentifier) : group.IsWord := by
  refine ⟨?_, fun c hc => isWordChar_iff.mp ?_⟩
  · obtain ⟨first, rest, rfl, -⟩ := h
    exact List.cons_ne_nil first rest
  · exact isWordChar_of_mem_groupName (isGroupName_iff.mpr h) hc

theorem colon_not_mem_of_isWord (h : name.IsWord) : ':' ∉ name := by
  intro hmem
  have hcolon := colon_not_mem_name (isPatternName_iff.mpr h) ':' hmem
  exact absurd hcolon (by decide)

theorem spelled_iff : Spelled body p ↔ p.Valid ∧ p.body = body := by
  rw [valid_iff]
  constructor
  · intro h
    cases h with
    | name hname => exact ⟨⟨hname, by simp⟩, rfl⟩
    | group hname hgroup => exact ⟨⟨hname, by simpa using hgroup⟩, rfl⟩
  · rintro ⟨⟨hname, hgroup⟩, rfl⟩
    obtain ⟨name, _ | group⟩ := p
    · exact .name hname
    · exact .group hname (hgroup group rfl)

theorem parse?_eq_some_iff_spelled : parse? body = some p ↔ Spelled body p := by
  rw [spelled_iff, parse?_eq_some_iff]

theorem Spelled.unique (hp : Spelled body p) (hq : Spelled body q) : p = q := by
  obtain ⟨hvalid, hbody⟩ := spelled_iff.mp hp
  obtain ⟨hvalid', hbody'⟩ := spelled_iff.mp hq
  exact hvalid.eq_of_body_eq hvalid' (hbody.trans hbody'.symm)

theorem Spelled.isWord (h : Spelled body p) (hcolon : ':' ∉ body) : body.IsWord := by
  cases h with
  | name hname => exact hname
  | group hname hgroup => simp at hcolon

theorem Spelled.parts (h : Spelled (before ++ ':' :: after) p) :
    before.IsWord ∧ after.IsIdentifier := by
  generalize hbody : before ++ ':' :: after = body at h
  cases h with
  | name hname => exact absurd (by simp [← hbody]) (colon_not_mem_of_isWord hname)
  | group hname hgroup =>
    have hbefore := colon_not_mem_of_isWord hname
    have hafter := colon_not_mem_of_isWord (isWord_of_isIdentifier hgroup)
    obtain ⟨rfl, -, rfl⟩ := (List.append_cons_inj_of_notMem hbefore hafter).mp hbody.symm
    exact ⟨hname, hgroup⟩

theorem Spelled.isWord_of_mem (h : Spelled body p) (hc : c ∈ body) (hcolon : c ≠ ':') :
    IsWord [c] := by
  cases h with
  | name hname => exact (isWord_iff_forall.mp hname).2 c hc
  | group hname hgroup =>
    have hgroup := isWord_of_isIdentifier hgroup
    rcases List.mem_append.mp hc with hc | hc
    · exact (isWord_iff_forall.mp hname).2 c hc
    · exact (isWord_iff_forall.mp hgroup).2 c (List.mem_of_ne_of_mem hcolon hc)

theorem Spelled.not_faulty (h : Spelled body p) : ¬Faulty body := by
  intro hfaulty
  cases hfaulty with
  | noName hname =>
    rcases hname with rfl | hhead
    · exact (h.isWord List.not_mem_nil).1 rfl
    · obtain ⟨after, rfl⟩ := List.head?_eq_some_iff.mp hhead
      have hparts : IsWord [] ∧ IsIdentifier after := Spelled.parts h
      exact hparts.1.1 rfl
  | noGroup hlast =>
    obtain ⟨before, rfl⟩ := List.getLast?_eq_some_iff.mp hlast
    exact (isWord_of_isIdentifier h.parts.2).1 rfl
  | secondColon hcount =>
    have hmem : ':' ∈ body := List.count_pos_iff.mp (by omega)
    obtain ⟨before, after, rfl⟩ := List.append_of_mem hmem
    have hbefore := colon_not_mem_of_isWord h.parts.1
    have hafter := colon_not_mem_of_isWord (isWord_of_isIdentifier h.parts.2)
    simp [List.count_eq_zero_of_not_mem hbefore, List.count_eq_zero_of_not_mem hafter] at hcount
  | leadingDigit hbody hdigit =>
    subst hbody
    exact (isIdentifier_cons_iff.mp h.parts.2).2.1 hdigit
  | otherChar hmem hcolon hother => exact hother (h.isWord_of_mem hmem hcolon)

theorem exists_spelled_of_not_faulty (h : ¬Faulty body) : ∃ p, Spelled body p := by
  have hchar : ∀ c ∈ body, c ≠ ':' → IsWord [c] := fun c hc hcolon =>
    by_contra fun hother => h (.otherChar hc hcolon hother)
  by_cases hcolon : ':' ∈ body
  -- the name ends at the first colon, so only the group can have another
  · obtain ⟨name, group, rfl, hname⟩ := List.eq_append_cons_of_mem hcolon
    have hword : IsWord name := by
      refine isWord_iff_forall.mpr ⟨?_, fun c hc => ?_⟩
      · rintro rfl
        exact h (.noName (.inr rfl))
      · exact hchar c (List.mem_append_left _ hc) fun heq => hname (heq ▸ hc)
    cases group with
    | nil => exact absurd (.noGroup (by simp)) h
    | cons first rest =>
      have hcolons : ':' ∉ first :: rest := fun hmem => by
        have hcount := List.count_pos_iff.mpr hmem
        refine h (.secondColon ?_)
        rw [List.count_append, List.count_cons_self]
        omega
      have hgroup : ∀ c ∈ first :: rest, IsWord [c] := fun c hc =>
        hchar c (by simp [hc]) fun heq => hcolons (heq ▸ hc)
      have hfirst : ¬('0' ≤ first ∧ first ≤ '9') := fun hdigit => h (.leadingDigit rfl hdigit)
      rw [List.forall_mem_cons] at hgroup
      exact ⟨_, .group hword (isIdentifier_cons_iff.mpr ⟨hgroup.1, hfirst, hgroup.2⟩)⟩
  · have hne : body ≠ [] := fun hnil => h (.noName (.inl hnil))
    have hword : body.IsWord :=
      isWord_iff_forall.mpr ⟨hne, fun c hc => hchar c hc fun heq => hcolon (heq ▸ hc)⟩
    exact ⟨_, .name hword⟩

theorem faulty_iff_not_spelled : Faulty body ↔ ∀ p, ¬Spelled body p := by
  constructor
  · exact fun hfaulty p hp => hp.not_faulty hfaulty
  · intro hnone
    by_contra hfaulty
    obtain ⟨p, hp⟩ := exists_spelled_of_not_faulty hfaulty
    exact hnone p hp

/-- A body is read as a placeholder exactly if the grammar spells that placeholder with it, and it
spells no two placeholders with one body. Refused are the bodies with which it spells none: each of
them has a fault, and no other body has one. -/
theorem bodies_are_read_as_spelled (body : Text) :
    (∀ p, parse? body = some p ↔ Spelled body p) ∧
    (∀ p q, Spelled body p → Spelled body q → p = q) ∧
    (parse? body = none ↔ ∀ p, ¬Spelled body p) ∧
    (parse? body = none ↔ Faulty body) := by
  have hnone : parse? body = none ↔ ∀ p, ¬Spelled body p := by
    simp only [parse?_eq_none_iff, spelled_iff, not_and, ne_eq]
  refine ⟨fun p => parse?_eq_some_iff_spelled, fun p q hp hq => hp.unique hq, hnone, ?_⟩
  rw [hnone, faulty_iff_not_spelled]

theorem digit_comes_first_in_name_only :
    let p : Placeholder := ⟨"0_", some "_0"⟩
    Spelled "0_:_0" p ∧ parse? "0_:_0" = some p ∧ (∀ q, Spelled "0_:_0" q → q = p) ∧
      Faulty "0_:0_" ∧ parse? "0_:0_" = none := by
  intro p
  have hname : IsWord "0_" := isPatternName_iff.mp (by decide)
  have hgroup : IsIdentifier "_0" := isGroupName_iff.mp (by decide)
  have hspelled : Spelled "0_:_0" p := .group hname hgroup
  have hdigit : ("0_:0_" : Text) = "0_" ++ ':' :: '0' :: ['_'] := rfl
  have hfaulty : Faulty "0_:0_" := .leadingDigit hdigit (by decide)
  obtain ⟨hread, hunique, -⟩ := bodies_are_read_as_spelled "0_:_0"
  refine ⟨hspelled, (hread p).mpr hspelled, fun q hq => hunique q p hq hspelled, hfaulty, ?_⟩
  exact (bodies_are_read_as_spelled "0_:0_").2.2.2.mpr hfaulty

end Placeholder

end Grok
