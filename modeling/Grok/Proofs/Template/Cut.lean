import Grok.Template
import Mathlib

/-!
The cut of a text at its placeholders. It loses nothing: what it was cut from is the text. It takes
every placeholder that it can, from the left: a `%{` stays in literal text only where no closing brace
comes after it. No other cut of the text does both.
-/

namespace Grok.Template

def HasOpener (t : Text) : Prop := (['%', '{'] : Text) <:+: t

instance (t : Text) : Decidable (HasOpener t) :=
  inferInstanceAs (Decidable ((['%', '{'] : Text) <:+: t))

def Closed (t : Text) : Prop :=
  ∀ before after : Text, t = before ++ '%' :: '{' :: after → '}' ∈ after

def trail (template : Template) : Text := (template.holes.getLast?.map (·.2)).getD template.lead

/-- Only the placeholders have a `%{` with a closing brace behind it. -/
inductive IsCut : Template → Prop
  | literal {lead : Text} (hopener : ∀ before after : Text,
      lead = before ++ '%' :: '{' :: after → '}' ∉ after) : IsCut ⟨lead, []⟩
  | hole {lead body following : Text} {rest : List (Text × Text)} (hlead : ¬HasOpener lead)
      (hbody : '}' ∉ body) (hrest : IsCut ⟨following, rest⟩) :
      IsCut ⟨lead, (body, following) :: rest⟩

variable {t a b body following lead : Text} {c : Char} {rest : List (Text × Text)}
  {template : Template}

theorem hasOpener_cons : HasOpener (c :: t) ↔ (c = '%' ∧ t.head? = some '{') ∨ HasOpener t := by
  unfold HasOpener
  rw [List.infix_cons_iff, List.cons_prefix_cons, @eq_comm Char '%']
  cases t with
  | nil => simp
  | cons first t => simp [List.cons_prefix_cons, @eq_comm Char '{']

theorem hasOpener_append : HasOpener (a ++ b) ↔
    HasOpener a ∨ HasOpener b ∨ (a.getLast? = some '%' ∧ b.head? = some '{') := by
  induction a with
  | nil => simp [HasOpener]
  | cons c a ih =>
    rw [List.cons_append, hasOpener_cons, hasOpener_cons, ih]
    cases a with
    | nil => simp [HasOpener]; tauto
    | cons first a => simp [List.getLast?_cons_cons]; tauto

theorem not_hasOpener_of_not_mem (h : '%' ∉ t) : ¬HasOpener t :=
  fun hopener => h (hopener.subset (by simp))

theorem closing?_append (h : '}' ∉ body) (after : Text) :
    closing? (body ++ '}' :: after) = some (body, after) := by
  induction body with
  | nil => simp [closing?]
  | cons c body ih =>
    rw [List.mem_cons, not_or] at h
    rw [List.cons_append, closing?, if_neg (Ne.symm h.1), ih h.2]
    rfl

theorem closing?_of_not_mem (h : '}' ∉ t) : closing? t = none := by
  induction t with
  | nil => rfl
  | cons c t ih =>
    rw [List.mem_cons, not_or] at h
    rw [closing?, if_neg (Ne.symm h.1), ih h.2]
    rfl

theorem ofText_nil : ofText [] = ⟨[], []⟩ := by rw [ofText]

theorem ofText_unclosed (h : '}' ∉ t) : ofText ('%' :: '{' :: t) = ⟨'%' :: '{' :: t, []⟩ := by
  rw [ofText]
  split
  · rfl
  next hclosing =>
    rw [closing?_of_not_mem h] at hclosing
    cases hclosing

theorem ofText_written (h : '}' ∉ body) (after : Text) :
    ofText (Placeholder.written body ++ after) =
      ⟨[], (body, (ofText after).lead) :: (ofText after).holes⟩ := by
  have hwritten : Placeholder.written body ++ after = '%' :: '{' :: (body ++ '}' :: after) := by
    simp [Placeholder.written]
  rw [hwritten, ofText]
  split
  next hclosing =>
    rw [closing?_append h] at hclosing
    cases hclosing
  next hclosing =>
    rw [closing?_append h] at hclosing
    cases hclosing
    rfl

theorem ofText_cons (h : ¬(c = '%' ∧ t.head? = some '{')) :
    ofText (c :: t) = (ofText t).prepend [c] := by
  rw [ofText]
  rintro after rfl rfl
  exact h ⟨rfl, rfl⟩

theorem ofText_induction {P : Text → Prop} (nil : P [])
    (unclosed : ∀ t : Text, '}' ∉ t → P ('%' :: '{' :: t))
    (placeholder : ∀ body after : Text, '}' ∉ body → P after → P (Placeholder.written body ++ after))
    (literal : ∀ (c : Char) (t : Text), ¬(c = '%' ∧ t.head? = some '{') → P t → P (c :: t))
    (t : Text) : P t := by
  induction hlength : t.length using Nat.strong_induction_on generalizing t with
  | _ n ih =>
    subst hlength
    cases t with
    | nil => exact nil
    | cons c t =>
      by_cases hopener : c = '%' ∧ t.head? = some '{'
      · obtain ⟨rfl, hhead⟩ := hopener
        obtain ⟨inside, rfl⟩ := List.head?_eq_some_iff.mp hhead
        by_cases hclosing : '}' ∈ inside
        · obtain ⟨body, after, rfl, hbody⟩ := List.eq_append_cons_of_mem hclosing
          have hwritten : '%' :: '{' :: (body ++ '}' :: after) =
              Placeholder.written body ++ after := by simp [Placeholder.written]
          have hafter : P after := ih _ (by simp; omega) after rfl
          rw [hwritten]
          exact placeholder body after hbody hafter
        · exact unclosed inside hclosing
      · exact literal c t hopener (ih _ (by simp) t rfl)

theorem toText_literal : (⟨lead, []⟩ : Template).toText = lead := List.append_nil lead

theorem toText_hole : (⟨lead, (body, following) :: rest⟩ : Template).toText =
    lead ++ (Placeholder.written body ++ (⟨following, rest⟩ : Template).toText) := by
  simp [toText]

theorem toText_prepend : (template.prepend t).toText = t ++ template.toText := by
  simp [prepend, toText]

theorem toText_ofText (t : Text) : (ofText t).toText = t := by
  induction t using ofText_induction with
  | nil => rw [ofText_nil, toText_literal]
  | unclosed t h => rw [ofText_unclosed h, toText_literal]
  | placeholder body after hbody ih =>
    rw [ofText_written hbody, toText_hole, List.nil_append]
    exact congrArg (Placeholder.written body ++ ·) ih
  | literal c t h ih => rw [ofText_cons h, toText_prepend, ih, List.singleton_append]

theorem IsCut.prepend (h : template.IsCut) (hc : ¬(c = '%' ∧ template.toText.head? = some '{')) :
    (template.prepend [c]).IsCut := by
  cases h with
  | @literal lead hopener =>
    refine .literal fun before after heq => ?_
    cases before with
    | nil =>
      obtain ⟨rfl, rfl⟩ := List.cons.inj heq
      exact absurd ⟨rfl, by simp [toText]⟩ hc
    | cons first before => exact hopener before after (List.cons.inj heq).2
  | @hole lead body following rest hlead hbody hrest =>
    have hopener : ¬HasOpener (c :: lead) := by
      rw [hasOpener_cons, not_or]
      refine ⟨fun ⟨hpercent, hhead⟩ => hc ⟨hpercent, ?_⟩, hlead⟩
      rw [toText_hole, List.head?_append, hhead, Option.some_or]
    exact .hole hopener hbody hrest

theorem isCut_ofText (t : Text) : (ofText t).IsCut := by
  induction t using ofText_induction with
  | nil =>
    rw [ofText_nil]
    exact .literal (by simp)
  | unclosed t h =>
    rw [ofText_unclosed h]
    refine .literal fun before after heq hclosing => h ?_
    have hmem : '}' ∈ '%' :: '{' :: t := by simp [heq, hclosing]
    simpa using hmem
  | placeholder body after hbody ih =>
    rw [ofText_written hbody]
    exact .hole (by simp [HasOpener]) hbody ih
  | literal c t h ih =>
    rw [ofText_cons h]
    exact ih.prepend (by rwa [toText_ofText])

theorem IsCut.ofText_toText (h : template.IsCut) : ofText template.toText = template := by
  induction h with
  | @literal lead hopener =>
    rw [toText_literal]
    induction lead with
    | nil => exact ofText_nil
    | cons c lead ih =>
      by_cases hc : c = '%' ∧ lead.head? = some '{'
      · obtain ⟨rfl, hhead⟩ := hc
        obtain ⟨inside, rfl⟩ := List.head?_eq_some_iff.mp hhead
        exact ofText_unclosed (hopener [] inside rfl)
      · have hlead := ih fun before after heq => hopener (c :: before) after (by rw [heq]; rfl)
        rw [ofText_cons hc, hlead]
        rfl
  | @hole lead body following rest hlead hbody hrest ih =>
    rw [toText_hole]
    induction lead with
    | nil => rw [List.nil_append, ofText_written hbody, ih]
    | cons c lead ihlead =>
      rw [hasOpener_cons, not_or] at hlead
      -- a percent sign in front of the placeholder leaves its opener where it is
      have hc : ¬(c = '%' ∧ (lead ++ (Placeholder.written body ++
          (⟨following, rest⟩ : Template).toText)).head? = some '{') := by
        rintro ⟨rfl, hhead⟩
        cases lead with
        | nil => simp [Placeholder.written] at hhead
        | cons first lead => exact hlead.1 ⟨rfl, hhead⟩
      rw [List.cons_append, ofText_cons hc, ihlead hlead.2]
      rfl

theorem ofText_eq_iff : ofText t = template ↔ template.IsCut ∧ template.toText = t := by
  constructor
  · rintro rfl
    exact ⟨isCut_ofText t, toText_ofText t⟩
  · rintro ⟨hcut, rfl⟩
    exact hcut.ofText_toText

theorem IsCut.of_not_hasOpener (h : ¬HasOpener lead) : IsCut ⟨lead, []⟩ :=
  .literal fun before after heq => absurd ⟨before, after, by simp [heq]⟩ h

theorem ofText_of_not_hasOpener (h : ¬HasOpener t) : ofText t = ⟨t, []⟩ :=
  ofText_eq_iff.mpr ⟨.of_not_hasOpener h, toText_literal⟩

theorem trail_literal : (⟨lead, []⟩ : Template).trail = lead := rfl

theorem trail_hole : (⟨lead, (body, following) :: rest⟩ : Template).trail =
    (⟨following, rest⟩ : Template).trail := by
  cases rest with
  | nil => rfl
  | cons hole rest => simp [trail, List.getLast?_cons]

theorem exists_toText_eq_append_trail (h : template.IsCut) :
    ∃ before : Text, template.toText = before ++ template.trail := by
  induction h with
  | literal hopener => exact ⟨[], toText_literal⟩
  | @hole lead body following rest hlead hbody hrest ih =>
    obtain ⟨before, hbefore⟩ := ih
    refine ⟨lead ++ (Placeholder.written body ++ before), ?_⟩
    rw [toText_hole, trail_hole, hbefore]
    simp

theorem IsCut.not_mem_of_trail (h : template.IsCut) {before after : Text}
    (htrail : template.trail = before ++ '%' :: '{' :: after) : '}' ∉ after := by
  induction h with
  | literal hopener => exact hopener before after htrail
  | hole hlead hbody hrest ih =>
    rw [trail_hole] at htrail
    exact ih htrail

theorem Closed.not_hasOpener_trail (h : Closed t) : ¬HasOpener (ofText t).trail := by
  rintro ⟨before, after, htrail⟩
  have hsplit : (ofText t).trail = before ++ '%' :: '{' :: after := by simp [← htrail]
  obtain ⟨front, hfront⟩ := exists_toText_eq_append_trail (isCut_ofText t)
  rw [toText_ofText, hsplit, ← List.append_assoc] at hfront
  exact (isCut_ofText t).not_mem_of_trail hsplit (h _ _ hfront)

theorem not_hasOpener_trail_of_not_hasOpener (h : ¬HasOpener t) : ¬HasOpener (ofText t).trail := by
  rw [ofText_of_not_hasOpener h]
  exact h

theorem IsCut.before_hole {holes : List (Text × Text)}
    (h : IsCut ⟨lead, holes ++ (body, following) :: rest⟩) :
    IsCut ⟨lead, holes⟩ ∧ ¬HasOpener (trail ⟨lead, holes⟩) ∧ '}' ∉ body := by
  induction holes generalizing lead with
  | nil =>
    cases h with
    | hole hlead hbody hrest => exact ⟨.of_not_hasOpener hlead, hlead, hbody⟩
  | cons hole holes ih =>
    cases h with
    | hole hlead hbrace hrest =>
      obtain ⟨hcut, htrail, hbody⟩ := ih hrest
      exact ⟨.hole hlead hbrace hcut, by rwa [trail_hole], hbody⟩

theorem toText_append_hole {holes : List (Text × Text)} :
    toText ⟨lead, holes ++ (body, following) :: rest⟩ =
      toText ⟨lead, holes⟩ ++ (Placeholder.written body ++ toText ⟨following, rest⟩) := by
  simp [toText]

theorem closed_iff_tails :
    Closed t ↔ ∀ tail ∈ t.tails, tail.take 2 = ['%', '{'] → '}' ∈ tail.drop 2 := by
  constructor
  · intro h tail htail hopener
    obtain ⟨before, rfl⟩ := (List.mem_tails _ _).mp htail
    apply h before (tail.drop 2)
    conv_lhs => rw [← List.take_append_drop 2 tail, hopener]
    rfl
  · rintro h before after rfl
    exact h _ ((List.mem_tails _ _).mpr (List.suffix_append _ _)) rfl

instance (t : Text) : Decidable (Closed t) := decidable_of_iff _ closed_iff_tails.symm

end Grok.Template
