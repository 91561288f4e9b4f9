import Grok.Placeholder
import Grok.Text.Blank
import Mathlib

namespace Grok

namespace Text

def Blank (t : Text) : Prop := ∀ c ∈ t, isBlank c = true

structure Tight (t : Text) : Prop where
  first : ∀ c, t.head? = some c → isBlank c = false
  last : ∀ c, t.getLast? = some c → isBlank c = false

def IsWord (t : Text) : Prop :=
  t ≠ [] ∧ ∀ c ∈ t, ('A' ≤ c ∧ c ≤ 'Z') ∨ ('a' ≤ c ∧ c ≤ 'z') ∨ ('0' ≤ c ∧ c ≤ '9') ∨ c = '_'

variable {t core before after : Text}

theorem isWordChar_iff {c : Char} : isWordChar c = true ↔
    ('A' ≤ c ∧ c ≤ 'Z') ∨ ('a' ≤ c ∧ c ≤ 'z') ∨ ('0' ≤ c ∧ c ≤ '9') ∨ c = '_' := by
  simp [isWordChar, Char.isAlphanum, Char.isAlpha, Char.isUpper, Char.isLower, Char.isDigit,
    Char.le_def, or_assoc]

theorem isPatternName_iff : isPatternName t = true ↔ t.IsWord := by
  simp [isPatternName, IsWord, isWordChar_iff]

theorem isBlank_of_isWordChar {c : Char} (h : isWordChar c = true) : isBlank c = false := by
  have hn : c.toNat = 95 ∨ (48 ≤ c.toNat ∧ c.toNat ≤ 57) ∨ (65 ≤ c.toNat ∧ c.toNat ≤ 90) ∨
      (97 ≤ c.toNat ∧ c.toNat ≤ 122) := by
    rw [isWordChar_iff] at h
    simp only [Char.le_def, UInt32.le_iff_toNat_le, Char.ext_iff, ← UInt32.toNat_inj] at h
    change c.val.toNat = 95 ∨ _
    rcases h with h | h | h | h
    · exact .inr (.inr (.inl h))
    · exact .inr (.inr (.inr h))
    · exact .inr (.inl h)
    · exact .inl h
  simp [isBlank]
  omega

theorem IsWord.isBlank_eq_false (h : t.IsWord) : ∀ c ∈ t, isBlank c = false := by
  intro c hc
  exact isBlank_of_isWordChar (isWordChar_iff.mpr (h.2 c hc))

theorem Blank.append (hbefore : Blank before) (hafter : Blank after) : Blank (before ++ after) := by
  intro c hc
  exact (List.mem_append.mp hc).elim (hbefore c) (hafter c)

theorem takeWhile_append_of_boundary {p : Char → Bool} (hbefore : ∀ c ∈ before, p c = true)
    (hcore : ∀ c, core.head? = some c → p c = false) : (before ++ core).takeWhile p = before := by
  rw [List.takeWhile_append_of_pos hbefore]
  cases core with
  | nil => simp
  | cons c rest => simp [hcore c rfl]

theorem dropWhile_append_of_boundary {p : Char → Bool} (hbefore : ∀ c ∈ before, p c = true)
    (hcore : ∀ c, core.head? = some c → p c = false) : (before ++ core).dropWhile p = core := by
  rw [List.dropWhile_append_of_pos hbefore]
  cases core with
  | nil => rfl
  | cons c rest => simp [hcore c rfl]

theorem head_dropWhile {p : Char → Bool} (t : Text) :
    ∀ c, (t.dropWhile p).head? = some c → p c = false := by
  intro c hc
  have h := List.head?_dropWhile_not p t
  rwa [hc] at h

theorem trim_append (hcore : core.Tight) (hbefore : Blank before) (hafter : Blank after) :
    trim (before ++ core ++ after) = core := by
  have hend : trimEnd (core ++ after) = core := by
    have hrev : Blank after.reverse := fun c hc => hafter c (List.mem_reverse.mp hc)
    rw [trimEnd, List.reverse_append, dropWhile_append_of_boundary hrev, List.reverse_reverse]
    intro c hc
    exact hcore.last c (by rwa [List.head?_reverse] at hc)
  rw [trim, trimStart, List.append_assoc]
  by_cases hnil : core = []
  · subst hnil
    rw [List.nil_append, List.dropWhile_eq_nil_iff.mpr (hbefore.append hafter)]
    rfl
  · rw [dropWhile_append_of_boundary hbefore, hend]
    intro c hc
    exact hcore.first c (by rwa [List.head?_append_of_ne_nil _ hnil] at hc)

theorem trimEnd_append (t : Text) : t.trimEnd ++ (t.reverse.takeWhile isBlank).reverse = t := by
  rw [trimEnd, ← List.reverse_append, List.takeWhile_append_dropWhile, List.reverse_reverse]

theorem exists_eq_trim_append (t : Text) :
    ∃ before after, t = before ++ t.trim ++ after ∧ Blank before ∧ Blank after := by
  refine ⟨t.takeWhile isBlank, (t.trimStart.reverse.takeWhile isBlank).reverse, ?_, ?_, ?_⟩
  · rw [List.append_assoc, trim, trimEnd_append, trimStart, List.takeWhile_append_dropWhile]
  · exact fun c hc => List.mem_takeWhile_imp hc
  · exact fun c hc => List.mem_takeWhile_imp (List.mem_reverse.mp hc)

theorem trimStart_eq_nil_iff : t.trimStart = [] ↔ t.Blank := List.dropWhile_eq_nil_iff

theorem trim_eq_nil_iff : t.trim = [] ↔ t.Blank := by
  constructor
  · intro h
    obtain ⟨before, after, ht, hbefore, hafter⟩ := exists_eq_trim_append t
    rw [ht, h, List.append_nil]
    exact hbefore.append hafter
  · intro h
    rw [trim, trimStart_eq_nil_iff.mpr h]
    rfl

theorem head?_trim (t : Text) : t.trim.head? = t.trimStart.head? := by
  cases h : t.trim.head? with
  | none =>
    rw [List.head?_eq_none_iff, trim_eq_nil_iff, ← trimStart_eq_nil_iff] at h
    rw [h, List.head?_nil]
  | some c =>
    rw [← trimEnd_append t.trimStart, List.head?_append, ← trim, h, Option.some_or]

theorem tight_trim (t : Text) : t.trim.Tight := by
  constructor
  · intro c hc
    rw [head?_trim] at hc
    exact head_dropWhile t c hc
  · intro c hc
    rw [trim, trimEnd, List.getLast?_reverse] at hc
    exact head_dropWhile _ c hc

theorem trim_append_of_blank (hafter : Blank after) : trim (t ++ after) = t.trim := by
  obtain ⟨before, between, ht, hbefore, hbetween⟩ := exists_eq_trim_append t
  have hcore : t ++ after = before ++ t.trim ++ (between ++ after) := by
    rw [← List.append_assoc, ← ht]
  rw [hcore, trim_append (tight_trim t) hbefore (hbetween.append hafter)]

end Text

end Grok
