import Grok.Regex.Backtracking.Parser
import Mathlib

namespace Grok.Regex.Backtracking

/-- The named groups stand in the order of their numbers, the last one first, and have been opened. -/
structure Reading.Numbered (r : Reading) : Prop where
  descending : r.names.Pairwise fun a b => b.2 < a.2
  opened : ∀ entry ∈ r.names, 1 ≤ entry.2 ∧ entry.2 ≤ r.groups

def Reader.Keeps {α : Type} (x : Reader α) : Prop :=
  ∀ r a r', r.Numbered → x.run r = some (a, r') → r'.Numbered

namespace Reader

variable {α β : Type} {x : Reader α} {f : α → Reader β}

theorem keeps_pure (a : α) : Keeps (pure a : Reader α) := by
  intro r b r' hr h
  cases h
  exact hr

theorem keeps_failure : Keeps (failure : Reader α) := by
  intro r a r' hr h
  cases h

theorem Keeps.bind (hx : Keeps x) (hf : ∀ a, Keeps (f a)) : Keeps (x >>= f) := by
  intro r b r' hr h
  rw [StateT.run_bind] at h
  obtain ⟨⟨a, s⟩, ha, hb⟩ := Option.bind_eq_some_iff.mp h
  exact hf a s b r' (hx r a s hr ha) hb

theorem Keeps.ite {c : Prop} [Decidable c] {y : Reader α} (hx : Keeps x) (hy : Keeps y) :
    Keeps (if c then x else y) := by
  split
  · exact hx
  · exact hy

theorem keeps_guard {c : Prop} [Decidable c] {f : Unit → Reader α} (hf : Keeps (f ())) :
    Keeps (if c then failure >>= f else f ()) := by
  split
  · exact keeps_failure.bind fun _ => hf
  · exact hf

theorem keeps_get : Keeps (get : Reader Reading) := by
  intro r a r' hr h
  cases h
  exact hr

theorem keeps_modify {g : Reading → Reading} (hg : ∀ r, r.Numbered → (g r).Numbered) :
    Keeps (modify g : Reader Unit) := by
  intro r a r' hr h
  cases h
  exact hg r hr

theorem keeps_lift (a? : Option α) : Keeps (liftM a? : Reader α) := by
  intro r a r' hr h
  cases a? with
  | none => cases h
  | some a =>
    cases h
    exact hr

theorem keeps_rest : Keeps rest := keeps_get.bind fun _ => keeps_pure _

theorem keeps_goTo (t : Text) : Keeps (goTo t) := keeps_modify fun _ hr => ⟨hr.1, hr.2⟩

theorem keeps_skip : Keeps skip := by
  refine keeps_get.bind fun r => ?_
  refine (keeps_lift _).bind fun t => ?_
  exact (keeps_goTo t).bind fun _ => keeps_pure t

theorem keeps_expect (c : Char) : Keeps (expect c) := by
  refine keeps_skip.bind fun t => ?_
  cases t with
  | nil => exact keeps_failure
  | cons d rest =>
    dsimp only
    split
    · exact keeps_goTo rest
    · exact keeps_failure

theorem keeps_groupOf? (name : Text) : Keeps (groupOf? name) := keeps_get.bind fun _ => keeps_pure _

theorem keeps_refer (group : Nat) : Keeps (refer group) := by
  intro r a r' hr h
  by_cases hgroup : r.groups < group
  · have hfails : (refer group).run r = none := by
      simp [refer, hgroup]
    cases hfails.symm.trans h
  · simp [refer, hgroup] at h
    subst h
    exact ⟨hr.descending, hr.opened⟩

theorem keeps_openGroup (name : Option Text) : Keeps (openGroup name) := by
  intro r index r' hr h
  cases h
  cases name with
  | none =>
    refine ⟨hr.descending, fun entry hentry => ?_⟩
    obtain ⟨hfirst, hlast⟩ := hr.opened entry hentry
    exact ⟨hfirst, Nat.le_succ_of_le hlast⟩
  | some name =>
    refine ⟨List.pairwise_cons.mpr ⟨fun entry hentry => ?_, hr.descending⟩, ?_⟩
    · exact Nat.lt_succ_of_le (hr.opened entry hentry).2
    · intro entry hentry
      obtain rfl | hentry := List.mem_cons.mp hentry
      · exact ⟨Nat.succ_pos _, Nat.le_refl _⟩
      · obtain ⟨hfirst, hlast⟩ := hr.opened entry hentry
        exact ⟨hfirst, Nat.le_succ_of_le hlast⟩

end Reader

open Reader

theorem keeps_readRepetition (e : Expr) : Keeps (readRepetition e) := by
  unfold readRepetition
  refine keeps_skip.bind fun t => keeps_get.bind fun r => ?_
  split
  · exact keeps_pure e
  · refine keeps_guard ((keeps_goTo _).bind fun _ => keeps_skip.bind fun t => keeps_get.bind fun r => ?_)
    dsimp only
    split <;> exact (keeps_goTo _).bind fun _ => keeps_pure _

theorem keeps_readFlags (on : Bool) (n : Nat) : Keeps (readFlags on n) := by
  induction n generalizing on with
  | zero => exact keeps_failure
  | succ n ih =>
    unfold readFlags
    refine keeps_skip.bind fun t => ?_
    cases t with
    | nil => exact keeps_failure
    | cons c rest =>
      refine .ite (keeps_pure _) (.ite ?_ (keeps_get.bind fun r => ?_))
      · exact keeps_guard ((keeps_goTo rest).bind fun _ => ih false)
      · split
        · exact keeps_failure
        · exact .bind (keeps_modify fun _ hr => ⟨hr.1, hr.2⟩) fun _ => ih on

theorem keeps_readClass (t : Text) : Keeps (readClass t) := by
  refine keeps_get.bind fun r => ?_
  dsimp only
  exact (keeps_lift _).bind fun _ => (keeps_goTo _).bind fun _ => keeps_pure _

theorem keeps_numberedRef (t : Text) : Keeps (numberedRef t) := by
  refine (keeps_lift _).bind fun (group, rest) => keeps_get.bind fun r => ?_
  refine keeps_guard ?_
  exact .bind (keeps_modify fun _ hr => ⟨hr.1, hr.2⟩) fun _ => (keeps_refer group).bind fun _ =>
    keeps_pure _

theorem keeps_namedRef (opening closing : Text) (relative : Bool) (t : Text) :
    Keeps (namedRef opening closing relative t) := by
  unfold namedRef
  split
  · refine (keeps_groupOf? _).bind fun group? => ?_
    have hafter : ∀ rest group, Keeps (do
        goTo rest; refer group; return Expr.backref group) := fun rest group =>
      (keeps_goTo rest).bind fun _ => (keeps_refer group).bind fun _ => keeps_pure _
    dsimp only
    split
    · exact (keeps_pure _).bind fun _ => hafter _ _
    · split
      · exact (keeps_pure _).bind fun _ => hafter _ _
      · exact keeps_failure.bind fun _ => hafter _ _
  · refine keeps_guard (keeps_get.bind fun r => (keeps_lift _).bind fun (group, rest) => ?_)
    refine keeps_guard ?_
    exact (keeps_goTo _).bind fun _ => (keeps_refer group).bind fun _ => keeps_pure _

theorem keeps_readEscape (t : Text) : Keeps (readEscape t) := by
  unfold readEscape
  cases t with
  | nil => exact keeps_failure
  | cons c rest =>
    refine .ite (keeps_numberedRef _) (.ite ?_ ?_)
    · exact .ite (keeps_namedRef _ _ _ _) (keeps_namedRef _ _ _ _)
    · split
      · exact keeps_guard ((keeps_goTo rest).bind fun _ => keeps_pure _)
      · exact keeps_get.bind fun r => (keeps_lift _).bind fun _ => (keeps_goTo _).bind fun _ =>
          keeps_pure _

structure KeptWithin (n : Nat) : Prop where
  choice : ∀ depth, Keeps (readChoice depth n)
  more : ∀ depth, Keeps (readMore depth n)
  sequence : ∀ depth, Keeps (readSequence depth n)
  atom : ∀ depth, Keeps (readAtom depth n)
  group : ∀ depth, Keeps (readGroup depth n)
  closed : ∀ depth, Keeps (readClosed depth n)
  conditional : ∀ depth, Keeps (readConditional depth n)

section

variable {n : Nat} (ih : KeptWithin n) (depth : Nat)

include ih

theorem KeptWithin.choice_succ : Keeps (readChoice depth (n + 1)) := by
  rw [readChoice]
  refine (ih.sequence depth).bind fun first => (ih.more depth).bind fun more => ?_
  cases more with
  | nil => exact keeps_get.bind fun r => keeps_guard (keeps_pure _)
  | cons e more => exact keeps_pure _

theorem KeptWithin.more_succ : Keeps (readMore depth (n + 1)) := by
  rw [readMore]
  refine keeps_skip.bind fun t => ?_
  split
  · exact (keeps_goTo _).bind fun _ => (ih.sequence depth).bind fun e => (ih.more depth).bind fun _ =>
      keeps_pure _
  · exact keeps_pure _

theorem KeptWithin.sequence_succ : Keeps (readSequence depth (n + 1)) := by
  rw [readSequence]
  refine keeps_skip.bind fun t => ?_
  split
  · exact keeps_pure _
  · exact keeps_pure _
  · exact keeps_pure _
  · exact (ih.atom depth).bind fun e => (keeps_readRepetition e).bind fun e =>
      (ih.sequence depth).bind fun _ => keeps_pure _

theorem KeptWithin.atom_succ : Keeps (readAtom depth (n + 1)) := by
  rw [readAtom]
  refine keeps_get.bind fun r => keeps_rest.bind fun t => ?_
  cases t with
  | nil => exact keeps_pure _
  | cons c rest =>
    dsimp only
    split
    · exact keeps_pure _
    · exact keeps_pure _
    · exact keeps_pure _
    · exact keeps_guard ((keeps_goTo rest).bind fun _ => ih.group (depth + 1))
    · exact keeps_readEscape rest
    · exact keeps_readClass rest
    · refine (keeps_goTo rest).bind fun _ => ?_
      split <;> exact keeps_pure _

theorem KeptWithin.group_succ : Keeps (readGroup depth (n + 1)) := by
  rw [readGroup]
  refine keeps_skip.bind fun t => .ite (keeps_namedRef _ _ _ _) ((keeps_goTo _).bind fun _ => ?_)
  split
  · exact (keeps_openGroup _).bind fun index => (ih.closed depth).bind fun _ => keeps_pure _
  · refine (keeps_lift _).bind fun named => ?_
    obtain ⟨name, rest⟩ := named
    refine (keeps_goTo rest).bind fun _ => (keeps_openGroup _).bind fun index => ?_
    exact (ih.closed depth).bind fun _ => keeps_pure _
  · exact (ih.closed depth).bind fun _ => keeps_pure _
  · exact (ih.closed depth).bind fun _ => keeps_pure _
  · exact ih.conditional depth
  · refine keeps_get.bind fun r => (keeps_readFlags _ _).bind fun _ => keeps_rest.bind fun t => ?_
    refine keeps_guard ?_
    dsimp only
    split
    · exact keeps_guard ((keeps_goTo _).bind fun _ => keeps_pure _)
    · refine (keeps_goTo _).bind fun _ => (ih.choice depth).bind fun e => keeps_rest.bind fun t => ?_
      split
      · exact .bind (keeps_modify fun _ hr => ⟨hr.1, hr.2⟩) fun _ => keeps_pure _
      · exact keeps_failure
    · exact keeps_failure

theorem KeptWithin.closed_succ : Keeps (readClosed depth (n + 1)) := by
  rw [readClosed]
  exact (ih.choice depth).bind fun e => (keeps_expect ')').bind fun _ => keeps_pure e

def readBranches (depth n : Nat) (condition : Expr) : Reader Expr := do
  expect ')'
  let before ← rest
  let branches ← readChoice depth n
  let after ← rest
  expect ')'
  if before.length = after.length then
    match condition with
    | .backref group => return .captured group
    | _ => failure
  else return condition.choose branches

theorem KeptWithin.branches (condition : Expr) : Keeps (readBranches depth n condition) := by
  refine (keeps_expect ')').bind fun _ => keeps_rest.bind fun before => ?_
  refine (ih.choice depth).bind fun branches => keeps_rest.bind fun after => ?_
  refine (keeps_expect ')').bind fun _ => .ite ?_ (keeps_pure _)
  split
  · exact keeps_pure _
  · exact keeps_failure

theorem KeptWithin.conditional_succ : Keeps (readConditional depth (n + 1)) := by
  rw [readConditional]
  refine keeps_rest.bind fun t => ?_
  cases t with
  | nil => exact keeps_failure.bind (ih.branches depth)
  | cons c rest =>
    refine .ite ?_ (.ite ?_ (.ite ?_ ?_))
    · exact (keeps_numberedRef _).bind (ih.branches depth)
    · exact (keeps_namedRef _ _ _ _).bind (ih.branches depth)
    · exact (keeps_namedRef _ _ _ _).bind (ih.branches depth)
    · exact (ih.choice depth).bind (ih.branches depth)

end

theorem keptWithin (n : Nat) : KeptWithin n := by
  induction n with
  | zero =>
    constructor <;> intro depth
    · rw [readChoice]; exact keeps_failure
    · rw [readMore]; exact keeps_failure
    · rw [readSequence]; exact keeps_failure
    · rw [readAtom]; exact keeps_failure
    · rw [readGroup]; exact keeps_failure
    · rw [readClosed]; exact keeps_failure
    · rw [readConditional]; exact keeps_failure
  | succ n ih =>
    exact ⟨ih.choice_succ, ih.more_succ, ih.sequence_succ, ih.atom_succ, ih.group_succ,
      ih.closed_succ, ih.conditional_succ⟩

theorem Source.numbered_of_parse? {source : Text} {s : Source} (h : Source.parse? source = some s) :
    s.names.Pairwise (fun a b => b.2 < a.2) ∧
      ∀ entry ∈ s.names, 1 ≤ entry.2 ∧ entry.2 ≤ s.groups := by
  obtain ⟨⟨e, r⟩, hread, h⟩ := Option.bind_eq_some_iff.mp h
  have hr : r.Numbered := by
    refine (keptWithin _).choice 0 _ e r ⟨List.Pairwise.nil, ?_⟩ hread
    exact fun entry hentry => absurd hentry List.not_mem_nil
  dsimp only at h
  split_ifs at h
  · cases h
  · cases h
    exact ⟨hr.descending, hr.opened⟩

end Grok.Regex.Backtracking
