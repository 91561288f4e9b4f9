import Grok.Pattern
import Grok.Proofs.Brackets.Scan
import Grok.Proofs.Pattern.Compiled
import Grok.Proofs.Placeholder.Grammar

namespace Grok

namespace Brackets

def nameBefore? (t : Text) : Option Text :=
  let name := t.takeWhile (· != '>')
  if isGroupName name ∧ '>' ∈ t then some name else none

def marked? : Text → Option Text
  | 'P' :: '<' :: t => nameBefore? t
  | '<' :: t => nameBefore? t
  | _ => none

def opening? : Text → Option (Option Text)
  | '?' :: t => (marked? t).map some
  | _ => some none

def openingsFrom : Mode → Text → List (Option Text)
  | _, [] => []
  | m, c :: t =>
    (if m = .plain ∧ c = '(' then (opening? t).toList else []) ++ openingsFrom (m.next c) t

def openings (t : Text) : List (Option Text) := openingsFrom .plain t

def lastNumber? (name : Text) : List (Option Text) → Option Nat
  | [] => none
  | opening :: rest =>
    ((lastNumber? name rest).map (· + 1)).or (if opening = some name then some 1 else none)

def keepLast : List (Option Text) → List (Option Text)
  | [] => []
  | opening :: rest => (if opening ∈ rest then none else opening) :: keepLast rest

variable {t u : Text} {c : Char} {m : Mode}

theorem isGroupName_append_eq_false (hc : isWordChar c = false) :
    isGroupName (t ++ c :: u) = false := by
  rw [← Bool.not_eq_true]
  intro h
  have hword := Placeholder.isWordChar_of_mem_groupName h
    (List.mem_append_right t List.mem_cons_self)
  exact absurd hword (by simp [hc])

/-- Names have no parentheses, so that a name which is not ended before one is not ended at all. -/
theorem nameBefore?_append (hc : c = '(' ∨ c = ')') : nameBefore? (t ++ c :: u) = nameBefore? t := by
  have hword : isWordChar c = false := by rcases hc with rfl | rfl <;> decide
  have hbracket : c ≠ '>' := by rcases hc with rfl | rfl <;> decide
  unfold nameBefore?
  by_cases hmem : '>' ∈ t
  · have htake : (t ++ c :: u).takeWhile (· != '>') = t.takeWhile (· != '>') := by
      rw [List.takeWhile_append, if_neg]
      intro hlength
      have hall := (List.takeWhile_prefix (· != '>')).eq_of_length hlength
      have hne := List.takeWhile_eq_self_iff.mp hall _ hmem
      simp at hne
    rw [htake]
    simp [hmem]
  · have hall : ∀ x ∈ t, (x != '>') = true := by
      intro x hx
      simp only [bne_iff_ne, ne_eq]
      rintro rfl
      exact hmem hx
    have htake : (t ++ c :: u).takeWhile (· != '>') = t ++ c :: u.takeWhile (· != '>') := by
      rw [List.takeWhile_append_of_pos hall, List.takeWhile_cons_of_pos (by simpa using hbracket)]
    rw [htake, if_neg, if_neg]
    · exact fun h => hmem h.2
    · rw [isGroupName_append_eq_false hword]
      simp

theorem nameBefore?_groupName {name : Text} (h : isGroupName name = true) :
    nameBefore? (name ++ '>' :: u) = some name := by
  have hbefore : ∀ c ∈ name, (c != '>') = true := by
    intro c hc
    have hword := Placeholder.isWordChar_of_mem_groupName h hc
    simp only [bne_iff_ne, ne_eq]
    rintro rfl
    exact absurd hword (by decide)
  have htake : (name ++ '>' :: u).takeWhile (· != '>') = name := by
    rw [List.takeWhile_append_of_pos hbefore, List.takeWhile_cons_of_neg (by simp),
      List.append_nil]
  unfold nameBefore?
  rw [htake]
  simp [h]

theorem marked?_append (hc : c = '(' ∨ c = ')') : marked? (t ++ c :: u) = marked? t := by
  fun_cases marked? t with
  | case1 t => exact nameBefore?_append hc
  | case2 t => exact nameBefore?_append hc
  | case3 t hlong hshort =>
    rw [marked?.eq_3]
    · intro rest h
      match t with
      | [] => rcases hc with rfl | rfl <;> cases h
      | [a] => rcases hc with rfl | rfl <;> cases h
      | a :: b :: t =>
        cases h
        exact hlong t rfl
    · intro rest h
      cases t with
      | nil => rcases hc with rfl | rfl <;> cases h
      | cons a t =>
        cases h
        exact hshort t rfl

theorem opening?_append (hc : c = '(' ∨ c = ')') : opening? (t ++ c :: u) = opening? t := by
  fun_cases opening? t with
  | case1 t =>
    rw [List.cons_append, opening?, marked?_append hc]
  | case2 t hne =>
    rw [opening?.eq_2]
    intro rest h
    cases t with
    | nil => rcases hc with rfl | rfl <;> cases h
    | cons a t =>
      cases h
      exact hne t rfl

theorem openingsFrom_append (hc : c = '(' ∨ c = ')') : openingsFrom m (t ++ c :: u) =
    openingsFrom m t ++ openingsFrom (t.foldl Mode.next m) (c :: u) := by
  induction t generalizing m with
  | nil => rfl
  | cons d t ih =>
    rw [List.cons_append, openingsFrom, openingsFrom, opening?_append hc, ih, List.append_assoc,
      List.foldl_cons]

theorem openings_append_open (h : t.foldl Mode.next .plain = .plain) :
    openings (t ++ '(' :: u) = openings t ++ openings ('(' :: u) := by
  unfold openings
  rw [openingsFrom_append (.inl rfl), h]

theorem openings_append_close (h : t.foldl Mode.next .plain = .plain) :
    openings (t ++ ')' :: u) = openings t ++ openings u := by
  unfold openings
  rw [openingsFrom_append (.inr rfl), h]
  rfl

theorem openings_concat_close (t : Text) : openings (t ++ [')']) = openings t := by
  unfold openings
  rw [openingsFrom_append (.inr rfl)]
  simp [openingsFrom]

theorem openings_append_of_inert (h : Inert t) : openings (t ++ u) = openings u := by
  induction t with
  | nil => rfl
  | cons c t ih =>
    obtain ⟨hescape, hclass, hopen, -⟩ := h c List.mem_cons_self
    have hrest := ih fun c hc => h c (List.mem_cons_of_mem _ hc)
    rw [← hrest]
    simp [openings, openingsFrom, Mode.next, hescape, hclass, hopen]

section Numbers

variable {name : Text} {opened : List (Option Text)} {n : Nat}

theorem lastNumber?_eq_none_iff : lastNumber? name opened = none ↔ some name ∉ opened := by
  induction opened with
  | nil => simp [lastNumber?]
  | cons opening rest ih =>
    rw [lastNumber?, Option.or_eq_none_iff, Option.map_eq_none_iff, ih, List.mem_cons, not_or]
    simp only [ite_eq_right_iff, reduceCtorEq, imp_false]
    tauto

theorem lastNumber?_ne_zero : lastNumber? name opened ≠ some 0 := by
  cases opened with
  | nil => simp [lastNumber?]
  | cons opening rest =>
    rw [lastNumber?]
    cases lastNumber? name rest with
    | some k => simp
    | none =>
      simp only [Option.map_none, Option.none_or]
      split_ifs <;> simp

theorem keepLast_getElem?_eq_some_iff :
    (keepLast opened)[n]? = some (some name) ↔ lastNumber? name opened = some (n + 1) := by
  induction opened generalizing n with
  | nil => simp [keepLast, lastNumber?]
  | cons opening rest ih =>
    rw [keepLast, lastNumber?]
    cases hrest : lastNumber? name rest with
    | none =>
      have hmem := lastNumber?_eq_none_iff.mp hrest
      cases n with
      | zero =>
        simp only [List.getElem?_cons_zero, Option.some.injEq, Option.map_none, Option.none_or]
        split_ifs with hdup hname hname
        · exact absurd (hname ▸ hdup) hmem
        · simp
        · simp [hname]
        · simp [hname]
      | succ n =>
        rw [List.getElem?_cons_succ, ih, hrest]
        simp only [Option.map_none, Option.none_or]
        split_ifs <;> simp
    | some k =>
      have hmem : some name ∈ rest := by
        by_contra h
        rw [lastNumber?_eq_none_iff.mpr h] at hrest
        cases hrest
      have hk : k ≠ 0 := by
        rintro rfl
        exact lastNumber?_ne_zero hrest
      cases n with
      | zero =>
        simp only [List.getElem?_cons_zero, Option.some.injEq, Option.map_some, Option.some_or]
        split_ifs with hdup
        · simp [hk]
        · have hname : opening ≠ some name := by
            rintro rfl
            exact hdup hmem
          simp [hname, hk]
      | succ n =>
        rw [List.getElem?_cons_succ, ih, hrest]
        simp

end Numbers

end Brackets

/-- The groups are numbered from one on by their openings, and of groups with one name the last one
has it. -/
def Regex.NumbersByOpening (r : Regex) : Prop :=
  r.names = none :: Brackets.keepLast (Brackets.openings r.source)

namespace Pattern

variable {p : Pattern} {name : Text} {n : Nat}

theorem mem_groups_iff_lastNumber? (h : p.regex.NumbersByOpening) :
    (name, n) ∈ p.groups ↔ Brackets.lastNumber? name (Brackets.openings p.source) = some n := by
  rw [mem_groups_iff, h]
  cases n with
  | zero => simp [Brackets.lastNumber?_ne_zero]
  | succ n => rw [List.getElem?_cons_succ, Brackets.keepLast_getElem?_eq_some_iff, source]

theorem group?_eq_lastNumber? (h : p.regex.NumbersByOpening) (name : Text) :
    p.group? name = Brackets.lastNumber? name (Brackets.openings p.source) := by
  ext n
  rw [group?_eq_some_iff, mem_groups_iff_lastNumber? h]
  intro i j hi hj
  rw [mem_groups_iff_lastNumber? h] at hi hj
  exact Option.some.inj (hi.symm.trans hj)

theorem mem_groupNames_iff (h : p.regex.NumbersByOpening) (name : Text) :
    name ∈ p.groupNames ↔ some name ∈ Brackets.openings p.source := by
  have hsome : some name ∈ Brackets.openings p.source ↔
      ∃ n, Brackets.lastNumber? name (Brackets.openings p.source) = some n := by
    rw [← Option.ne_none_iff_exists', ne_eq, Brackets.lastNumber?_eq_none_iff, not_not]
  rw [groupNames, List.mem_map, hsome]
  constructor
  · rintro ⟨⟨group, n⟩, hmem, rfl⟩
    exact ⟨n, (mem_groups_iff_lastNumber? h).mp hmem⟩
  · rintro ⟨n, hn⟩
    exact ⟨(name, n), (mem_groups_iff_lastNumber? h).mpr hn, rfl⟩

end Pattern

end Grok
