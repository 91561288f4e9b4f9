import Grok.Proofs.Text.Trim

namespace Grok

def Text.IsIdentifier (t : Text) : Prop :=
  ∃ first rest, t = first :: rest ∧
    (('A' ≤ first ∧ first ≤ 'Z') ∨ ('a' ≤ first ∧ first ≤ 'z') ∨ first = '_') ∧
    ∀ c ∈ rest, ('A' ≤ c ∧ c ≤ 'Z') ∨ ('a' ≤ c ∧ c ≤ 'z') ∨ ('0' ≤ c ∧ c ≤ '9') ∨ c = '_'

theorem Text.isGroupName_iff {t : Text} : isGroupName t = true ↔ t.IsIdentifier := by
  cases t with
  | nil => simp [isGroupName, IsIdentifier]
  | cons first rest =>
    simp [isGroupName, IsIdentifier, isWordChar_iff, isGroupStart, Char.isAlpha, Char.isUpper,
      Char.isLower, Char.le_def, or_assoc]

namespace Placeholder

structure Valid (p : Placeholder) : Prop where
  name : isPatternName p.name = true
  group : ∀ g, p.group = some g → isGroupName g = true

theorem isWordChar_of_isGroupStart {c : Char} (h : isGroupStart c = true) :
    isWordChar c = true := by
  simp only [isGroupStart, isWordChar, Bool.or_eq_true, Char.isAlphanum] at h ⊢
  tauto

theorem isWordChar_of_mem_groupName {name : Text} (h : isGroupName name = true) {c : Char}
    (hc : c ∈ name) : isWordChar c = true := by
  cases name with
  | nil => cases hc
  | cons first rest =>
    simp only [isGroupName, Bool.and_eq_true, List.all_eq_true] at h
    rcases List.mem_cons.mp hc with rfl | hc
    · exact isWordChar_of_isGroupStart h.1
    · exact h.2 c hc

theorem isWordChar_of_mem_patternName {name : Text} (h : isPatternName name = true) {c : Char}
    (hc : c ∈ name) : isWordChar c = true := by
  simp only [isPatternName, Bool.and_eq_true, List.all_eq_true] at h
  exact h.2 c hc

theorem colon_not_mem_name {name : Text} (h : isPatternName name = true) :
    ∀ c ∈ name, (c != ':') = true := by
  intro c hc
  have hw := isWordChar_of_mem_patternName h hc
  have hne : c ≠ ':' := by
    rintro rfl
    exact absurd hw (by decide)
  simpa using hne

theorem head_dropWhile_colon {t rest : Text} {c : Char}
    (h : t.dropWhile (· != ':') = c :: rest) : c = ':' := by
  have hc := List.head_dropWhile_not (· != ':') (l := t) (by simp [h])
  simpa [h] using hc

theorem parse?_sound {body : Text} {p : Placeholder} (h : parse? body = some p) :
    p.Valid ∧ p.body = body := by
  have hsplit : body.takeWhile (· != ':') ++ body.dropWhile (· != ':') = body :=
    List.takeWhile_append_dropWhile
  unfold parse? at h
  cases hd : body.dropWhile (· != ':') with
  | nil =>
    simp only [hd, Option.ite_none_right_eq_some, Option.some.injEq] at h
    obtain ⟨hname, rfl⟩ := h
    exact ⟨⟨hname, by simp⟩, by simpa [Placeholder.body, hd] using hsplit⟩
  | cons c group =>
    simp only [hd, Option.ite_none_right_eq_some, Option.some.injEq, Bool.and_eq_true] at h
    obtain ⟨⟨hname, hgroup⟩, rfl⟩ := h
    have hc : c = ':' := head_dropWhile_colon hd
    refine ⟨⟨hname, by simpa using hgroup⟩, ?_⟩
    rw [hd, hc] at hsplit
    exact hsplit

theorem parse?_complete {p : Placeholder} (h : p.Valid) : parse? p.body = some p := by
  obtain ⟨name, group⟩ := p
  have hname : isPatternName name = true := h.name
  have hcolon := colon_not_mem_name hname
  cases group with
  | none =>
    have ht : name.takeWhile (· != ':') = name := List.takeWhile_eq_self_iff.mpr hcolon
    have hd : name.dropWhile (· != ':') = [] := List.dropWhile_eq_nil_iff.mpr hcolon
    simp [parse?, Placeholder.body, ht, hd, hname]
  | some group =>
    have hgroup : isGroupName group = true := h.group group rfl
    have ht : (name ++ ':' :: group).takeWhile (· != ':') = name := by
      rw [List.takeWhile_append_of_pos hcolon]
      simp
    have hd : (name ++ ':' :: group).dropWhile (· != ':') = ':' :: group := by
      rw [List.dropWhile_append_of_pos hcolon]
      simp
    simp [parse?, Placeholder.body, ht, hd, hname, hgroup]

theorem parse?_eq_some_iff {body : Text} {p : Placeholder} :
    parse? body = some p ↔ p.Valid ∧ p.body = body := by
  constructor
  · exact parse?_sound
  · rintro ⟨hvalid, rfl⟩
    exact parse?_complete hvalid

theorem parse?_eq_none_iff {body : Text} :
    parse? body = none ↔ ∀ p : Placeholder, p.Valid → p.body ≠ body := by
  rw [Option.eq_none_iff_forall_ne_some]
  constructor
  · intro h p hp hb
    exact h p (parse?_eq_some_iff.mpr ⟨hp, hb⟩)
  · intro h p hp
    obtain ⟨hvalid, hbody⟩ := parse?_eq_some_iff.mp hp
    exact h p hvalid hbody

theorem valid_iff {p : Placeholder} :
    p.Valid ↔ p.name.IsWord ∧ ∀ g, p.group = some g → g.IsIdentifier := by
  simp only [← Text.isPatternName_iff, ← Text.isGroupName_iff]
  exact ⟨fun h => ⟨h.name, h.group⟩, fun h => ⟨h.1, h.2⟩⟩

theorem written_injective : Function.Injective written := by
  intro a b h
  simpa [written] using h

theorem Valid.closing_not_mem {p : Placeholder} (h : p.Valid) : '}' ∉ p.body := by
  have hword : ∀ t : Text, (∀ c ∈ t, isWordChar c = true) → '}' ∉ t := by
    intro t ht hc
    exact absurd (ht _ hc) (by decide)
  have hname := hword p.name fun c => isWordChar_of_mem_patternName h.name
  unfold Placeholder.body
  cases hg : p.group with
  | none => exact hname
  | some group =>
    have hgroup := hword group fun c => isWordChar_of_mem_groupName (h.group group hg)
    simp [hname, hgroup]

theorem Valid.eq_of_body_eq {p q : Placeholder} (hp : p.Valid) (hq : q.Valid)
    (h : p.body = q.body) : p = q := by
  have hread : parse? q.body = some p := parse?_eq_some_iff.mpr ⟨hp, h⟩
  rw [parse?_complete hq] at hread
  exact (Option.some.inj hread).symm

end Placeholder

end Grok
