import Grok.Metric.Basic
import Grok.Proofs.Pattern.Compiled
import Grok.Proofs.Regex.BacktrackingNames
import Grok.Proofs.Regex.LinearNames

namespace Grok

namespace Regex

variable {r : Regex} {dialect : Dialect} {source name : Text} {named : List (Text × Nat)} {n m : Nat}

inductive Writes : Dialect → Text → Text → Nat → Prop
  | linear {source name : Text} {n : Nat} {e : Linear.Expr} (he : Linear.Expr.parse? source = some e)
      (hgroup : (n, some name) ∈ e.groups) : Writes .linear source name n
  | backtracking {source name : Text} {n : Nat} {s : Backtracking.Source}
      (hs : Backtracking.Source.parse? source = some s) (hgroup : (name, n) ∈ s.names) :
      Writes .backtracking source name n

def LastWritten (dialect : Dialect) (source name : Text) (n : Nat) : Prop :=
  Writes dialect source name n ∧ ∀ m, Writes dialect source name m → m ≤ n

theorem names_namesUpTo_iff {groups : Nat}
    (hbound : ∀ entry ∈ named, 1 ≤ entry.2 ∧ entry.2 ≤ groups)
    (hone : ∀ a b i, (a, i) ∈ named → (b, i) ∈ named → a = b) :
    (namesUpTo groups named)[n]? = some (some name) ↔ named.lookup name = some n := by
  constructor
  · intro h
    exact lookup_of_namesUpTo h
  · intro h
    have hmem := mem_of_lookup_eq_some h
    obtain ⟨hfirst, hlast⟩ := hbound _ hmem
    obtain ⟨i, rfl⟩ := Nat.exists_eq_add_of_le' hfirst
    rw [namesUpTo, List.getElem?_cons_succ, List.getElem?_map, List.getElem?_range (by omega),
      Option.map_some, Option.some_inj, Option.map_eq_some_iff]
    cases hfind : (firstOfEach named).find? fun entry => entry.2 = i + 1 with
    | none =>
      have hne := List.find?_eq_none.mp hfind _ (mem_firstOfEach_iff.mpr h)
      simp at hne
    | some entry =>
      obtain ⟨own, index⟩ := entry
      obtain rfl : index = i + 1 := by simpa using List.find?_some hfind
      have hown := mem_firstOfEach_iff.mp (List.mem_of_find?_eq_some hfind)
      exact ⟨_, rfl, hone own name _ (mem_of_lookup_eq_some hown) hmem⟩

theorem lookup_eq_some_iff_last (hdescending : named.Pairwise fun a b => b.2 < a.2) :
    named.lookup name = some n ↔ (name, n) ∈ named ∧ ∀ m, (name, m) ∈ named → m ≤ n := by
  induction named with
  | nil => simp
  | cons entry rest ih =>
    obtain ⟨own, index⟩ := entry
    rw [List.pairwise_cons] at hdescending
    rw [List.lookup_cons]
    by_cases hown : name = own
    · subst hown
      rw [beq_self_eq_true, Option.some_inj]
      constructor
      · rintro rfl
        refine ⟨List.mem_cons_self, fun m hm => ?_⟩
        obtain heq | hm := List.mem_cons.mp hm
        · exact (congrArg Prod.snd heq).le
        · exact (hdescending.1 _ hm).le
      · rintro ⟨hmem, hlast⟩
        obtain heq | hmem := List.mem_cons.mp hmem
        · exact (congrArg Prod.snd heq).symm
        · have hlt := hdescending.1 _ hmem
          exact absurd (hlast index List.mem_cons_self) (Nat.not_le_of_lt hlt)
    · simp [hown, beq_false_of_ne hown, ih hdescending.2]

theorem le_foldl_max (groups : List (Nat × Option Text)) (bound : Nat) :
    bound ≤ groups.foldl (fun n g => max n g.1) bound ∧
      ∀ g ∈ groups, g.1 ≤ groups.foldl (fun n g => max n g.1) bound := by
  induction groups generalizing bound with
  | nil => simp
  | cons g groups ih =>
    obtain ⟨hbound, hgroups⟩ := ih (max bound g.1)
    rw [List.foldl_cons, List.forall_mem_cons]
    exact ⟨by omega, by omega, hgroups⟩

theorem mem_named_iff {groups : List (Nat × Option Text)} :
    (name, n) ∈ (groups.filterMap fun (index, own) => own.map (·, index)) ↔
      (n, some name) ∈ groups := by
  rw [List.mem_filterMap]
  constructor
  · rintro ⟨⟨index, own⟩, hmem, heq⟩
    obtain ⟨own, rfl, heq⟩ := Option.map_eq_some_iff.mp heq
    cases heq
    exact hmem
  · exact fun hmem => ⟨_, hmem, rfl⟩

theorem writes_linear_iff {e : Linear.Expr} (he : Linear.Expr.parse? source = some e) :
    Writes .linear source name n ↔ (n, some name) ∈ e.groups := by
  constructor
  · intro h
    cases h with
    | linear he' hgroup =>
      cases he.symm.trans he'
      exact hgroup
  · exact .linear he

theorem writes_backtracking_iff {s : Backtracking.Source}
    (hs : Backtracking.Source.parse? source = some s) :
    Writes .backtracking source name n ↔ (name, n) ∈ s.names := by
  constructor
  · intro h
    cases h with
    | backtracking hs' hgroup =>
      cases hs.symm.trans hs'
      exact hgroup
  · exact .backtracking hs

theorem names_iff_of_linear (h : compile? .linear source = some r) :
    r.names[n]? = some (some name) ↔ Writes .linear source name n := by
  obtain ⟨e, he, -, hnames⟩ := exists_parse_of_compileLinear? h
  obtain ⟨read, hdistinct, hsubset⟩ := Linear.Expr.exists_distinct_of_parse? he
  rw [hnames, names_namesUpTo_iff, lookup_eq_some_iff_of_unique, mem_named_iff, writes_linear_iff he]
  · intro i j hi hj
    rw [mem_named_iff] at hi hj
    exact hdistinct.byName name i j (hsubset hi) (hsubset hj)
  · rintro ⟨own, i⟩ hi
    rw [mem_named_iff] at hi
    exact ⟨(hdistinct.numbered _ (hsubset hi)).1, (le_foldl_max e.groups 0).2 _ hi⟩
  · intro a b i ha hb
    rw [mem_named_iff] at ha hb
    exact Option.some.inj (hdistinct.byNumber i _ _ (hsubset ha) (hsubset hb))

theorem names_iff_of_backtracking (h : compile? .backtracking source = some r) :
    r.names[n]? = some (some name) ↔ LastWritten .backtracking source name n := by
  obtain ⟨s, hs, -, hnames⟩ := exists_parse_of_compileBacktracking? h
  obtain ⟨hdescending, hopened⟩ := Backtracking.Source.numbered_of_parse? hs
  rw [hnames, names_namesUpTo_iff hopened, lookup_eq_some_iff_last hdescending]
  · simp only [LastWritten, writes_backtracking_iff hs]
  · intro a b i ha hb
    have hnumbers : (s.names.map (·.2)).Nodup :=
      List.pairwise_map.mpr (hdescending.imp fun hlt => (ne_of_lt hlt).symm)
    exact congrArg Prod.fst (List.inj_on_of_nodup_map hnumbers ha hb rfl)

theorem lastWritten_of_writes_linear (h : compile? .linear source = some r)
    (hn : Writes .linear source name n) : LastWritten .linear source name n := by
  refine ⟨hn, fun m hm => ?_⟩
  rw [← names_iff_of_linear h] at hn hm
  exact (r.names_differ name m n hm hn).le

theorem names_iff_lastWritten (h : compile? dialect source = some r) :
    r.names[n]? = some (some name) ↔ LastWritten dialect source name n := by
  cases dialect with
  | linear =>
    rw [names_iff_of_linear h]
    exact ⟨lastWritten_of_writes_linear h, And.left⟩
  | backtracking => exact names_iff_of_backtracking h

theorem exists_lastWritten (h : compile? dialect source = some r)
    (hn : Writes dialect source name n) : ∃ n, LastWritten dialect source name n := by
  cases dialect with
  | linear => exact ⟨n, lastWritten_of_writes_linear h hn⟩
  | backtracking =>
    obtain ⟨s, hs, -⟩ := exists_parse_of_compileBacktracking? h
    cases hlookup : s.names.lookup name with
    | none =>
      have hne := List.lookup_eq_none_iff.mp hlookup _ ((writes_backtracking_iff hs).mp hn)
      simp at hne
    | some last =>
      obtain ⟨hdescending, -⟩ := Backtracking.Source.numbered_of_parse? hs
      refine ⟨last, ?_⟩
      simpa only [LastWritten, writes_backtracking_iff hs] using
        (lookup_eq_some_iff_last hdescending).mp hlookup

/-- A name that a source writes on a capture group is found in a match exactly when the last group of
the name took part, with the text of that group, and is read as empty otherwise. The linear dialect has
no other group of the name. Nothing else is found. -/
theorem fields_have_last_group_of_each_name {line : Text} {captured : List (Option Text)}
    (h : compile? dialect source = some r) (hline : r.captures line = .ok (some captured)) :
    ∃ fields, r.fields line = .ok (some fields) ∧
      (∀ name n, Writes dialect source name n → ∃ last, LastWritten dialect source name last ∧
        last < captured.length ∧ fields.lookup name = (captured[last]?).join ∧
        Metric.captured fields name = ((captured[last]?).join).getD [] ∧
        (dialect = .linear → n = last)) ∧
      ∀ entry ∈ fields, ∃ n, LastWritten dialect source entry.1 n ∧
        captured[n]? = some (some entry.2) := by
  refine ⟨r.found captured, by rw [fields_eq_map, hline]; rfl, fun name n hn => ?_, ?_⟩
  · obtain ⟨last, hlast⟩ := exists_lastWritten h hn
    have hname := (names_iff_lastWritten h).mpr hlast
    have hlookup : (r.found captured).lookup name = (captured[last]?).join :=
      lookup_found hname
    refine ⟨last, hlast, ?_, hlookup, by rw [Metric.captured, hlookup], ?_⟩
    · rw [r.captures_length _ _ hline]
      exact (List.getElem?_eq_some_iff.mp hname).1
    · rintro rfl
      have hown := (names_iff_of_linear h).mpr hn
      exact r.names_differ name n last hown hname
  · rintro ⟨name, text⟩ hentry
    obtain ⟨n, hn, htext⟩ := mem_found_iff.mp hentry
    exact ⟨n, (names_iff_lastWritten h).mp hn, htext⟩

theorem earlier_group_of_repeated_name_is_lost :
    let repeated : Text := "(?P<x>a)|(?P<x>b)"
    let distinct : Text := "(?P<__>a)(?P<_>b)"
    (compile? .linear repeated = none ∧ ∃ r, compile? .backtracking repeated = some r ∧
      Writes .backtracking repeated "x" 1 ∧
      r.captures "a" = .ok (some [some "a", some "a", none]) ∧ r.fields "a" = .ok (some []) ∧
      ∃ fields, r.fields "b" = .ok (some fields) ∧ fields.lookup ("x" : Text) = some ("b" : Text)) ∧
    ∃ r fields, compile? .linear distinct = some r ∧ r.fields "ab" = .ok (some fields) ∧
      Writes .linear distinct "_" 2 ∧ fields.lookup ("_" : Text) = some ("b" : Text) ∧
      Metric.captured fields "__" = "a" := by
  intro repeated distinct
  constructor
  · let byFirst : List (Option Text) := [some "a", some "a", none]
    let bySecond : List (Option Text) := [some "b", none, some "b"]
    let written : List (Text × Nat) := [("x", 2), ("x", 1)]
    have hfirst : (compile? .backtracking repeated).map (·.captures "a") =
        some (.ok (some byFirst)) := by decide +kernel
    have hsecond : (compile? .backtracking repeated).map (·.captures "b") =
        some (.ok (some bySecond)) := by decide +kernel
    have hparse : (Backtracking.Source.parse? repeated).map (·.names) = some written := by
      decide +kernel
    obtain ⟨r, hr, hfirst⟩ := Option.map_eq_some_iff.mp hfirst
    rw [hr, Option.map_some, Option.some_inj] at hsecond
    obtain ⟨s, hs, hnames⟩ := Option.map_eq_some_iff.mp hparse
    have hone : Writes .backtracking repeated "x" 1 := by
      rw [writes_backtracking_iff hs, hnames]
      exact .tail _ (.head _)
    have htwo : Writes .backtracking repeated "x" 2 := by
      rw [writes_backtracking_iff hs, hnames]
      exact .head _
    have hlast (name : Text) (n : Nat) (h : LastWritten .backtracking repeated name n) : n = 2 := by
      obtain ⟨hwrites, hle⟩ := h
      rw [writes_backtracking_iff hs, hnames] at hwrites
      obtain heq | hmem := List.mem_cons.mp hwrites
      · exact congrArg Prod.snd heq
      · obtain ⟨rfl, rfl⟩ := Prod.mk.inj (List.mem_singleton.mp hmem)
        exact absurd (hle 2 htwo) (by decide)
    obtain ⟨none, hnone, -, hfound⟩ := fields_have_last_group_of_each_name hr hfirst
    obtain ⟨fields, hfields, hread, -⟩ := fields_have_last_group_of_each_name hr hsecond
    obtain rfl : none = [] := by
      refine List.eq_nil_iff_forall_not_mem.mpr fun entry hentry => ?_
      obtain ⟨n, hn, htext⟩ := hfound entry hentry
      obtain rfl := hlast _ n hn
      cases htext
    obtain ⟨last, hn, -, hlookup, -⟩ := hread _ _ hone
    obtain rfl := hlast _ last hn
    exact ⟨by decide +kernel, r, hr, hone, hfirst, hnone, fields, hfields, hlookup⟩
  · let parts : List (Option Text) := [some "ab", some "a", some "b"]
    let groups : List (Nat × Option Text) := [(1, some "__"), (2, some "_")]
    have hcompile : (compile? .linear distinct).map (·.captures "ab") =
        some (.ok (some parts)) := by decide +kernel
    have hparse : (Linear.Expr.parse? distinct).map (·.groups) = some groups := by decide +kernel
    obtain ⟨r, hr, hline⟩ := Option.map_eq_some_iff.mp hcompile
    obtain ⟨e, he, hgroups⟩ := Option.map_eq_some_iff.mp hparse
    have hfirst : Writes .linear distinct "__" 1 := .linear he (by rw [hgroups]; exact .head _)
    have hsecond : Writes .linear distinct "_" 2 :=
      .linear he (by rw [hgroups]; exact .tail _ (.head _))
    obtain ⟨fields, hfields, hread, -⟩ := fields_have_last_group_of_each_name hr hline
    obtain ⟨_, -, -, -, htext, hone⟩ := hread _ _ hfirst
    obtain ⟨_, -, -, hlookup, -, htwo⟩ := hread _ _ hsecond
    obtain rfl := hone rfl
    obtain rfl := htwo rfl
    exact ⟨r, fields, hr, hfields, hsecond, hlookup, htext⟩

end Regex

end Grok
