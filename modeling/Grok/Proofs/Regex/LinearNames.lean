import Grok.Regex.Linear.Parser
import Mathlib

namespace Grok.Regex.Linear

variable {g : Nat × Option Text} {items : List Item} {r r' : Reading} {t rest : Text}

theorem mem_groups_foldl {join : Expr → Expr → Expr}
    (hjoin : ∀ a b, (join a b).groups = a.groups ++ b.groups) (e : Expr)
    (h : g ∈ (items.foldl (fun rest item => join item.expr rest) e).groups) :
    g ∈ e.groups ∨ ∃ item ∈ items, g ∈ item.expr.groups := by
  induction items generalizing e with
  | nil => exact .inl h
  | cons item items ih =>
    have hcases := ih _ h
    rw [hjoin, List.mem_append] at hcases
    simp only [List.mem_cons, exists_eq_or_imp]
    tauto

theorem mem_groups_sequence (h : g ∈ (sequence items).expr.groups) :
    ∃ item ∈ items, g ∈ item.expr.groups := by
  match items, h with
  | [item], h => exact ⟨item, List.mem_cons_self, h⟩
  | a :: b :: items, h => simpa [Expr.groups] using mem_groups_foldl (fun _ _ => rfl) _ h

theorem mem_groups_alternatives (h : g ∈ (alternatives items).expr.groups) :
    ∃ item ∈ items, g ∈ item.expr.groups := by
  match items, h with
  | [item], h => exact ⟨item, List.mem_cons_self, h⟩
  | a :: b :: items, h => simpa using mem_groups_foldl (fun _ _ => rfl) _ h

theorem groups_repeated_subset (least : Nat) (most : Option Nat) (greedy : Bool) (body : Expr) :
    (Expr.repeated least most greedy body).groups ⊆ body.groups := by
  unfold Expr.repeated
  split
  split_ifs
  · exact List.nil_subset _
  · exact List.Subset.refl _
  · exact List.Subset.refl _

def GroupKind.groups : GroupKind → List (Nat × Option Text)
  | .capturing index name => [(index, name)]
  | .plain => []

def Frame.groups (f : Frame) : List (Nat × Option Text) :=
  f.kind.groups ++ (f.items ++ f.choices).flatMap (·.expr.groups)

theorem Frame.mem_groups {f : Frame} : g ∈ f.groups ↔ g ∈ f.kind.groups ∨
    (∃ item ∈ f.items, g ∈ item.expr.groups) ∨ ∃ item ∈ f.choices, g ∈ item.expr.groups := by
  simp only [Frame.groups, List.mem_append, List.flatMap_append, List.mem_flatMap]

namespace Reading

def opened (r : Reading) : List (Nat × Option Text) :=
  (r.items ++ r.choices).flatMap (·.expr.groups) ++ r.frames.flatMap Frame.groups

inductive Opens (r r' : Reading) : Prop
  | none (hopened : r'.opened ⊆ r.opened) (hgroups : r'.groups = r.groups)
      (hnames : r'.names = r.names)
  | unnamed (hopened : r'.opened ⊆ (r.groups + 1, Option.none) :: r.opened)
      (hgroups : r'.groups = r.groups + 1) (hnames : r'.names = r.names)
  | named {name : Text} (hnew : name ∉ r.names)
      (hopened : r'.opened ⊆ (r.groups + 1, some name) :: r.opened)
      (hgroups : r'.groups = r.groups + 1) (hnames : r'.names = name :: r.names)

theorem mem_opened : g ∈ r.opened ↔
    (∃ item ∈ r.items, g ∈ item.expr.groups) ∨ (∃ item ∈ r.choices, g ∈ item.expr.groups) ∨
      ∃ f ∈ r.frames, g ∈ f.groups := by
  simp only [opened, List.mem_append, List.flatMap_append, List.mem_flatMap, or_assoc]

theorem mem_groups_body (h : g ∈ r.body.expr.groups) :
    (∃ item ∈ r.items, g ∈ item.expr.groups) ∨ ∃ item ∈ r.choices, g ∈ item.expr.groups := by
  obtain ⟨item, hitem, hg⟩ := mem_groups_alternatives h
  obtain rfl | hitem := List.mem_cons.mp hitem
  · exact .inl (mem_groups_sequence hg)
  · exact .inr ⟨item, hitem, hg⟩

theorem opens_push {item : Item} (hitem : item.expr.groups = []) : r.Opens (r.push item) := by
  refine .none (fun g hg => ?_) rfl rfl
  simpa [mem_opened, push, hitem] using hg

theorem opens_alternate (r : Reading) : r.Opens r.alternate := by
  refine .none (fun g hg => ?_) rfl rfl
  rw [mem_opened] at hg ⊢
  obtain ⟨item, hitem, -⟩ | ⟨item, hitem, hg⟩ | hg := hg
  · cases hitem
  · obtain rfl | hitem := List.mem_cons.mp hitem
    · exact .inl (mem_groups_sequence hg)
    · exact .inr (.inl ⟨item, hitem, hg⟩)
  · exact .inr (.inr hg)

theorem mem_opened_enter {kind : GroupKind} {flags : Flags} (hg : g ∈ (r.enter kind flags).opened) :
    g ∈ kind.groups ∨ g ∈ r.opened := by
  rw [mem_opened] at hg ⊢
  simp only [enter, List.mem_cons, exists_eq_or_imp, Frame.mem_groups] at hg ⊢
  grind

theorem opens_enter_plain (r : Reading) (flags : Flags) : r.Opens (r.enter .plain flags) := by
  refine .none (fun g hg => ?_) rfl rfl
  exact (mem_opened_enter hg).resolve_left List.not_mem_nil

theorem opens_leave? (h : r.leave? = some r') : r.Opens r' := by
  unfold leave? at h
  split at h
  · cases h
  · next frame frames hframes =>
    cases h
    refine .none (fun g hg => ?_) rfl rfl
    rw [mem_opened] at hg ⊢
    have hbody : g ∈ (match frame.kind with
        | .capturing index name => .group index name r.body.expr
        | .plain => r.body.expr : Expr).groups → g ∈ frame.kind.groups ∨ g ∈ r.body.expr.groups := by
      cases frame.kind with
      | capturing index name => simp [Expr.groups, GroupKind.groups]
      | plain => exact .inr
    have hinside := @mem_groups_body g r
    simp only [hframes, List.mem_cons, exists_eq_or_imp, Frame.mem_groups] at hg ⊢
    grind

theorem opens_repeatLast? {least : Nat} {most : Option Nat} {lazy : Bool}
    (h : r.repeatLast? least most lazy = some r') : r.Opens r' := by
  unfold repeatLast? at h
  split at h
  · cases h
  · next item items hitems =>
    dsimp only at h
    split_ifs at h
    cases h
    refine .none (fun g hg => ?_) rfl rfl
    rw [mem_opened] at hg ⊢
    rw [hitems]
    simp only [List.mem_cons, exists_eq_or_imp] at hg ⊢
    have hrepeated := @groups_repeated_subset least most (lazy == r.flags.swapGreed) item.expr g
    grind

end Reading

theorem groups_literalExpr (flags : Flags) (c : Char) : (literalExpr flags c).groups = [] := by
  unfold literalExpr
  split_ifs <;> rfl

theorem groups_primitiveExpr {flags : Flags} {primitive : Primitive} {e : Expr}
    (h : primitiveExpr flags primitive = some e) : e.groups = [] := by
  cases primitive with
  | literal c isByte =>
    simp only [primitiveExpr] at h
    split_ifs at h
    cases h
    exact groups_literalExpr flags c
  | perl letter negated =>
    obtain ⟨set, -, rfl⟩ := Option.map_eq_some_iff.mp h
    rfl
  | unicode set negated =>
    obtain ⟨set, -, rfl⟩ := Option.map_eq_some_iff.mp h
    rfl
  | look look =>
    cases h
    rfl

theorem groups_dotExpr {flags : Flags} {e : Expr} (h : dotExpr flags = some e) : e.groups = [] := by
  unfold dotExpr at h
  split_ifs at h <;> cases h <;> rfl

theorem opens_enterNamed (h : enterNamed r t = some (r', rest)) : r.Opens r' := by
  obtain ⟨⟨name, after⟩, -, h⟩ := Option.bind_eq_some_iff.mp h
  dsimp only at h
  split_ifs at h with hname
  cases h
  refine .named hname (fun g hg => ?_) rfl rfl
  obtain hkind | hopened := Reading.mem_opened_enter hg
  · exact List.mem_cons.mpr (.inl (List.mem_singleton.mp hkind))
  · exact List.mem_cons_of_mem _ hopened

theorem opens_enterCapture (r : Reading) : r.Opens (enterCapture r none) := by
  refine .unnamed (fun g hg => ?_) rfl rfl
  obtain hkind | hopened := Reading.mem_opened_enter hg
  · exact List.mem_cons.mpr (.inl (List.mem_singleton.mp hkind))
  · exact List.mem_cons_of_mem _ hopened

theorem opens_readGroup (h : readGroup r t = some (r', rest)) : r.Opens r' := by
  unfold readGroup at h
  dsimp only at h
  split at h
  · cases h
  · split at h
    · exact opens_enterNamed h
    · exact opens_enterNamed h
    · obtain ⟨⟨flags, seen, after⟩, -, h⟩ := Option.bind_eq_some_iff.mp h
      dsimp only at h
      split at h
      · split_ifs at h
        cases h
        refine .none (fun g hg => ?_) rfl rfl
        simpa [Reading.mem_opened, Reading.push, Expr.groups] using hg
      · cases h
        exact r.opens_enter_plain flags
      · cases h
    · cases h
      exact opens_enterCapture r

theorem opens_readSign {least : Nat} {most : Option Nat}
    (h : readSign r least most t = some (r', rest)) : r.Opens r' := by
  obtain ⟨after, hafter, heq⟩ := Option.map_eq_some_iff.mp h
  cases heq
  exact Reading.opens_repeatLast? hafter

def closeCounts (r : Reading) (least : Nat) (most : Option Nat) (after : Text) :
    Option (Reading × Text) :=
  match after with
  | '}' :: rest =>
    let (lazy, rest) := lazyMark (r.flags.skip rest)
    if most.any (· < least) then none
    else (r.repeatLast? least most lazy).map (·, rest)
  | _ => none

theorem opens_closeCounts {least : Nat} {most : Option Nat}
    (h : closeCounts r least most t = some (r', rest)) : r.Opens r' := by
  unfold closeCounts at h
  split at h
  · dsimp only at h
    split_ifs at h
    obtain ⟨r', hafter, heq⟩ := Option.map_eq_some_iff.mp h
    cases heq
    exact Reading.opens_repeatLast? hafter
  · cases h

theorem opens_readCounts (h : readCounts r t = some (r', rest)) : r.Opens r' := by
  obtain ⟨⟨least, after⟩, -, h⟩ := Option.bind_eq_some_iff.mp h
  dsimp only at h
  split at h
  · split at h
    · obtain ⟨⟨most, after⟩, -, h⟩ := Option.bind_eq_some_iff.mp h
      exact opens_closeCounts h
    · obtain ⟨⟨most, after⟩, -, h⟩ := Option.bind_eq_some_iff.mp h
      exact opens_closeCounts h
  · obtain ⟨⟨most, after⟩, -, h⟩ := Option.bind_eq_some_iff.mp h
    exact opens_closeCounts h

theorem opens_readOne {c : Char} (h : readOne r c t = some (r', rest)) : r.Opens r' := by
  unfold readOne at h
  dsimp only at h
  split at h
  · exact opens_readGroup h
  · obtain ⟨after, hafter, heq⟩ := Option.map_eq_some_iff.mp h
    cases heq
    exact Reading.opens_leave? hafter
  · cases h
    exact r.opens_alternate
  · obtain ⟨after, hafter, heq⟩ := Option.map_eq_some_iff.mp h
    cases heq
    exact Reading.opens_push rfl
  · exact opens_readSign h
  · exact opens_readSign h
  · exact opens_readSign h
  · exact opens_readCounts h
  · obtain ⟨e, he, heq⟩ := Option.map_eq_some_iff.mp h
    cases heq
    exact Reading.opens_push (groups_dotExpr he)
  · cases h
    exact Reading.opens_push rfl
  · cases h
    exact Reading.opens_push rfl
  · obtain ⟨⟨primitive, after⟩, -, h⟩ := Option.bind_eq_some_iff.mp h
    obtain ⟨e, he, h⟩ := Option.bind_eq_some_iff.mp h
    cases h
    exact Reading.opens_push (groups_primitiveExpr he)
  · cases h
    exact Reading.opens_push (groups_literalExpr _ _)

/-- The numbers of the opened groups are in use, their names are known, and neither belongs to two
groups. -/
structure Reading.Distinct (r : Reading) : Prop where
  numbered : ∀ g ∈ r.opened, 1 ≤ g.1 ∧ g.1 ≤ r.groups
  known : ∀ i name, (i, some name) ∈ r.opened → name ∈ r.names
  byNumber : ∀ i a b, (i, a) ∈ r.opened → (i, b) ∈ r.opened → a = b
  byName : ∀ name i j, (i, some name) ∈ r.opened → (j, some name) ∈ r.opened → i = j

theorem Reading.Opens.distinct (h : r.Opens r') (hr : r.Distinct) : r'.Distinct := by
  have hfresh : ∀ a, (r.groups + 1, a) ∉ r.opened := by
    intro a ha
    have hle : r.groups + 1 ≤ r.groups := (hr.numbered _ ha).2
    omega
  have hknown : ∀ i name, (i, some name) ∈ r.opened → name ∈ r.names := hr.known
  obtain ⟨hnumbered, -, hbyNumber, hbyName⟩ := hr
  cases h with
  | none hopened hgroups hnames => constructor <;> grind
  | unnamed hopened hgroups hnames => constructor <;> grind
  | @named name hnew hopened hgroups hnames =>
    have hunknown : ∀ i, (i, some name) ∉ r.opened := fun i hi => hnew (hknown i name hi)
    constructor <;> grind

theorem distinct_of_readAll {n : Nat} (hr : r.Distinct) (h : readAll r n t = some r') :
    r'.Distinct := by
  induction n generalizing r t with
  | zero => cases h
  | succ n ih =>
    rw [readAll] at h
    split at h
    · cases h
      exact hr
    · split at h
      · cases h
      · next after rest hone => exact ih ((opens_readOne hone).distinct hr) h

theorem Expr.exists_distinct_of_parse? {source : Text} {e : Expr} (h : Expr.parse? source = some e) :
    ∃ r : Reading, r.Distinct ∧ e.groups ⊆ r.opened := by
  obtain ⟨r, hread, h⟩ := Option.bind_eq_some_iff.mp h
  have hstart : Reading.Distinct {} := by
    constructor <;> simp [Reading.opened]
  refine ⟨r, distinct_of_readAll hstart hread, ?_⟩
  dsimp only at h
  split_ifs at h
  · cases h
  · cases h
  · cases h
  · cases h
    intro g hg
    obtain hitems | hchoices := Reading.mem_groups_body hg
    · exact Reading.mem_opened.mpr (.inl hitems)
    · exact Reading.mem_opened.mpr (.inr (.inl hchoices))

end Grok.Regex.Linear
