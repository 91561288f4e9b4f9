import Grok.Template
import Mathlib

/-!
How the brackets of a regex are read, from left to right. A backslash makes the next character
inert, a square bracket opens a class up to the next closing one, and outside of classes each
closing parenthesis closes the parenthesis that was opened last. A text with balanced brackets can
be read in the middle of any other text: what is open before it is open after it.
-/

namespace Grok.Brackets

inductive Mode where
  | plain
  | escaped
  | inClass
  | escapedInClass
deriving DecidableEq, Repr

def Mode.next : Mode → Char → Mode
  | .plain, c => if c = '\\' then .escaped else if c = '[' then .inClass else .plain
  | .escaped, _ => .plain
  | .inClass, c => if c = '\\' then .escapedInClass else if c = ']' then .plain else .inClass
  | .escapedInClass, _ => .inClass

structure Scan where
  position : Nat := 0
  opened : List Nat := []
  mode : Mode := .plain
deriving DecidableEq, Repr

namespace Scan

/-- The parentheses that are open after the next character. Nothing closes a parenthesis that is
not there. -/
def openedBy? (s : Scan) (c : Char) : Option (List Nat) :=
  if s.mode = .plain ∧ c = '(' then some (s.position :: s.opened)
  else if s.mode = .plain ∧ c = ')' then s.opened.tail?
  else some s.opened

def read? (s : Scan) (c : Char) : Option Scan :=
  (s.openedBy? c).map fun opened => ⟨s.position + 1, opened, s.mode.next c⟩

def readAll? : Scan → Text → Option Scan
  | s, [] => some s
  | s, c :: t => (s.read? c).bind (·.readAll? t)

def skip (s : Scan) (n : Nat) : Scan := { s with position := s.position + n }

def readHoles? : Scan → List (Text × Text) → Option Scan
  | s, [] => some s
  | s, (body, following) :: rest =>
    if s.mode = .plain then
      ((s.skip (Placeholder.written body).length).readAll? following).bind (·.readHoles? rest)
    else none

def readTemplate? (s : Scan) (t : Template) : Option Scan :=
  (s.readAll? t.lead).bind (·.readHoles? t.holes)

end Scan

def Inert (t : Text) : Prop := ∀ c ∈ t, c ≠ '\\' ∧ c ≠ '[' ∧ c ≠ '(' ∧ c ≠ ')'

/-- The brackets of a text are balanced, and its placeholders stand between them. -/
def SelfContained (t : Template) : Prop :=
  ∃ s, Scan.readTemplate? {} t = some s ∧ s.opened = [] ∧ s.mode = .plain

instance (t : Template) : Decidable (SelfContained t) :=
  decidable_of_iff (∃ s ∈ Scan.readTemplate? {} t, s.opened = [] ∧ s.mode = .plain) Iff.rfl

def Closes (t : Text) (i j : Nat) : Prop :=
  ∃ s outer, Scan.readAll? {} (t.take j) = some s ∧ s.mode = .plain ∧ s.opened = i :: outer ∧
    t[j]? = some ')'

namespace Scan

variable {s s' t t' : Scan} {c : Char} {u v : Text}

theorem readAll?_append (s : Scan) (u v : Text) :
    s.readAll? (u ++ v) = (s.readAll? u).bind (·.readAll? v) := by
  induction u generalizing s with
  | nil => rfl
  | cons c u ih =>
    rw [List.cons_append, readAll?, readAll?, Option.bind_assoc]
    congr 1
    funext s'
    exact ih s'

theorem readAll?_append_of_eq (h : s.readAll? u = some s') :
    s.readAll? (u ++ v) = s'.readAll? v := by
  rw [readAll?_append, h, Option.bind_some]

theorem readAll?_singleton (s : Scan) (c : Char) : s.readAll? [c] = s.read? c := by
  rw [readAll?]
  cases s.read? c with
  | none => rfl
  | some s' => rfl

theorem position_of_read? (h : s.read? c = some s') : s'.position = s.position + 1 := by
  obtain ⟨opened, -, rfl⟩ := Option.map_eq_some_iff.mp h
  rfl

theorem mode_of_read? (h : s.read? c = some s') : s'.mode = s.mode.next c := by
  obtain ⟨opened, -, rfl⟩ := Option.map_eq_some_iff.mp h
  rfl

theorem position_of_readAll? (h : s.readAll? u = some s') :
    s'.position = s.position + u.length := by
  induction u generalizing s with
  | nil =>
    cases h
    rfl
  | cons c u ih =>
    obtain ⟨t, ht, hu⟩ := Option.bind_eq_some_iff.mp h
    have hposition := position_of_read? ht
    have hrest := ih hu
    rw [List.length_cons]
    omega

theorem mode_of_readAll? (h : s.readAll? u = some s') : s'.mode = u.foldl Mode.next s.mode := by
  induction u generalizing s with
  | nil =>
    cases h
    rfl
  | cons c u ih =>
    obtain ⟨t, ht, hu⟩ := Option.bind_eq_some_iff.mp h
    rw [ih hu, mode_of_read? ht, List.foldl_cons]

/-- The second scan reads the same text as the first one, with parentheses open around it. -/
structure Within (outer : List Nat) (s t : Scan) : Prop where
  mode : t.mode = s.mode
  opened : ∃ own, own.length = s.opened.length ∧ t.opened = own ++ outer

variable {outer : List Nat}

theorem Within.start (hmode : t.mode = .plain) (hopened : t.opened = outer) :
    Within outer {} t := ⟨hmode, [], rfl, hopened⟩

theorem Within.move (h : Within outer s t) (hs : s.mode = .plain) (n position : Nat) :
    Within outer (s.skip n) ⟨position, t.opened, .plain⟩ := ⟨hs.symm, h.opened⟩

theorem Within.read? (h : Within outer s t) (hs : s.read? c = some s') :
    ∃ t', t.read? c = some t' ∧ Within outer s' t' := by
  obtain ⟨opened, hopened, rfl⟩ := Option.map_eq_some_iff.mp hs
  obtain ⟨own, hlength, hown⟩ := h.opened
  unfold openedBy? at hopened
  unfold Scan.read? openedBy?
  rw [h.mode]
  split_ifs at hopened ⊢ with hopen hclose
  · cases hopened
    exact ⟨_, rfl, rfl, t.position :: own, by simp [hlength], by simp [hown]⟩
  · -- a parenthesis of the text itself is open here, so that none of the others is closed
    cases own with
    | nil =>
      rw [List.length_nil] at hlength
      rw [List.length_eq_zero_iff.mp hlength.symm] at hopened
      cases hopened
    | cons i own =>
      cases hs' : s.opened with
      | nil => simp [hs'] at hlength
      | cons k rest =>
        rw [hs'] at hopened hlength
        cases hopened
        rw [hown]
        exact ⟨_, rfl, rfl, own, by simpa using hlength, rfl⟩
  · cases hopened
    exact ⟨_, rfl, rfl, own, hlength, hown⟩

theorem Within.readAll? (h : Within outer s t) (hs : s.readAll? u = some s') :
    ∃ t', t.readAll? u = some t' ∧ Within outer s' t' := by
  induction u generalizing s t with
  | nil =>
    cases hs
    exact ⟨t, rfl, h⟩
  | cons c u ih =>
    obtain ⟨s₁, hs₁, hrest⟩ := Option.bind_eq_some_iff.mp hs
    obtain ⟨t₁, ht₁, hwithin⟩ := h.read? hs₁
    obtain ⟨t', ht', hwithin'⟩ := ih hwithin hrest
    refine ⟨t', ?_, hwithin'⟩
    rw [Scan.readAll?, ht₁, Option.bind_some]
    exact ht'

def Neutral (u : Text) : Prop :=
  ∀ t : Scan, t.mode = .plain → t.readAll? u = some ⟨t.position + u.length, t.opened, .plain⟩

theorem Neutral.of_within (hopened : s.opened = []) (hmode : s.mode = .plain)
    (h : ∀ t : Scan, t.mode = .plain → ∃ t', t.readAll? u = some t' ∧ Within t.opened s t') :
    Neutral u := by
  intro t ht
  obtain ⟨t', hread, hwithin⟩ := h t ht
  obtain ⟨own, hlength, hown⟩ := hwithin.opened
  rw [hopened, List.length_nil, List.length_eq_zero_iff] at hlength
  subst hlength
  have hposition := position_of_readAll? hread
  have hplain := hwithin.mode.trans hmode
  rw [hread]
  cases t'
  simp_all

theorem Neutral.selfContained (h : Neutral u) : SelfContained ⟨u, []⟩ := by
  have hread : Scan.readAll? {} u = some ⟨0 + u.length, [], .plain⟩ := h {} rfl
  refine ⟨⟨0 + u.length, [], .plain⟩, ?_, rfl, rfl⟩
  rw [readTemplate?, hread]
  rfl

theorem readAll?_inert (h : t.mode = .plain) (hu : Inert u) :
    t.readAll? u = some ⟨t.position + u.length, t.opened, .plain⟩ := by
  induction u generalizing t with
  | nil =>
    cases t
    simp_all [Scan.readAll?]
  | cons c u ih =>
    obtain ⟨hescape, hclass, hopen, hclose⟩ := hu c List.mem_cons_self
    have hread : t.read? c = some ⟨t.position + 1, t.opened, .plain⟩ := by
      simp [Scan.read?, openedBy?, Mode.next, h, hescape, hclass, hopen, hclose]
    rw [Scan.readAll?, hread, Option.bind_some, ih rfl fun c hc => hu c (List.mem_cons_of_mem _ hc)]
    simp only [List.length_cons, Option.some.injEq, mk.injEq, and_true]
    omega

theorem read?_open (h : t.mode = .plain) :
    t.read? '(' = some ⟨t.position + 1, t.position :: t.opened, .plain⟩ := by
  simp [Scan.read?, openedBy?, Mode.next, h]

theorem read?_close {i : Nat} (h : t.mode = .plain) (hopened : t.opened = i :: outer) :
    t.read? ')' = some ⟨t.position + 1, outer, .plain⟩ := by
  simp [Scan.read?, openedBy?, Mode.next, h, hopened]

end Scan

end Grok.Brackets
