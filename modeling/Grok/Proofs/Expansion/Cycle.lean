import Grok.Proofs.Expansion.Derivation
import Grok.Proofs.Expansion.Path

namespace Grok.Dictionary

/-- A way along references from a pattern back to itself that meets no other pattern twice. -/
structure IsCycle (d : Dictionary) (names : List Text) : Prop where
  two : 2 ≤ names.length
  closed : names.head? = names.getLast?
  distinct : names.dropLast.Nodup
  defined : ∀ name ∈ names, name ∈ d.names
  linked : names.IsChain d.References

variable {d : Dictionary} {limit : Nat} {expression : Text} {path : List Text} {text : Text}

theorem cycleThrough_eq_reverse (name : Text) (path : List Text) :
    cycleThrough name path = (name :: (path.takeWhile (· ≠ name) ++ [name])).reverse := by
  simp [cycleThrough]

theorem takeWhile_concat_prefix {name : Text} (h : name ∈ path) :
    path.takeWhile (· ≠ name) ++ [name] <+: path := by
  induction path with
  | nil => cases h
  | cons first rest ih =>
    by_cases hfirst : first = name
    · subst hfirst
      simp
    · have hrest : name ∈ rest := (List.mem_cons.mp h).resolve_left (Ne.symm hfirst)
      rw [List.takeWhile_cons_of_pos (by simpa using hfirst), List.cons_append]
      exact List.cons_prefix_cons.mpr ⟨rfl, ih hrest⟩

theorem isCycle_cycleThrough {name : Text}
    (hchain : (name :: path).IsChain fun inner outer => d.References outer inner)
    (hnodup : path.Nodup) (hnames : ∀ n ∈ path, n ∈ d.names) (hname : name ∈ path) :
    d.IsCycle (cycleThrough name path) := by
  have hcut := takeWhile_concat_prefix hname
  constructor
  · simp [cycleThrough]
  · rw [cycleThrough, List.getLast?_concat]
    rfl
  · have hdrop : (cycleThrough name path).dropLast = (path.takeWhile (· ≠ name) ++ [name]).reverse := by
      rw [cycleThrough, List.dropLast_concat]
      simp
    rw [hdrop, List.nodup_reverse]
    exact hnodup.sublist hcut.sublist
  · intro n hn
    rw [cycleThrough_eq_reverse, List.mem_reverse, List.mem_cons] at hn
    rcases hn with rfl | hn
    · exact hnames n hname
    · exact hnames n (hcut.subset hn)
  · rw [cycleThrough_eq_reverse, List.isChain_reverse]
    exact hchain.prefix (List.cons_prefix_cons.mpr ⟨rfl, hcut⟩)

theorem isCycle_of_expand {participants : List Text}
    (h : d.expand limit expression = .error (.cyclicPattern participants)) :
    d.IsCycle participants ∧ ∃ first, participants.head? = some first ∧ d.Reaches expression first := by
  obtain ⟨o, following, htrail, hhole, hfault⟩ := exists_fault_of_expand h
  cases hfault with
  | @cyclic p hvalid hbody hname hpath =>
    have hmentions := mentions_of_hole hvalid hbody hhole
    exact ⟨isCycle_cycleThrough (htrail.isChain_cons hmentions) htrail.nodup htrail.mem_names hpath,
      p.name, rfl, htrail.reaches hmentions⟩

theorem Fills.exists_height {holes : List (Text × Text)} {out following : Text} {height : Nat}
    {p : Placeholder} (h : d.Fills holes out height) (hvalid : p.Valid)
    (hmem : (p.body, following) ∈ holes) : ∃ k < height, d.HasHeight p.name k := by
  induction h with
  | nil => cases hmem
  | @cons q body following' definition inner out rest below height hvalid' hbody hdef hinner hrest
      ihinner ihrest =>
    rcases List.mem_cons.mp hmem with heq | hmem
    · have hpq : p = q := hvalid.eq_of_body_eq hvalid' ((congrArg Prod.fst heq).trans hbody.symm)
      subst hpq
      exact ⟨below, by omega, definition, _, hdef, inner, hinner, rfl⟩
    · obtain ⟨k, hk, hheight⟩ := ihrest hmem
      exact ⟨k, by omega, hheight⟩

theorem Expands.exists_height {out name : Text} {height : Nat} (h : d.Expands text out height)
    (hname : Mentions text name) : ∃ k < height, d.HasHeight name k := by
  obtain ⟨filled, hfills, -⟩ := h
  obtain ⟨p, following, hvalid, rfl, hmem⟩ := hname
  exact hfills.exists_height hvalid hmem

theorem HasHeight.of_references {a b : Text} {height : Nat} (h : d.HasHeight a height)
    (hab : d.References a b) : ∃ k < height, d.HasHeight b k := by
  obtain ⟨definition, out, hdef, hexpands⟩ := h
  obtain ⟨definition', hdef', hmentions⟩ := hab
  have hdd : definition = definition' := Option.some.inj (hdef.symm.trans hdef')
  subst hdd
  exact hexpands.exists_height hmentions

theorem HasHeight.of_transGen {a b : Text} {height : Nat} (h : d.HasHeight a height)
    (hab : Relation.TransGen d.References a b) : ∃ k < height, d.HasHeight b k := by
  induction hab with
  | single hab => exact h.of_references hab
  | tail _ hbc ih =>
    obtain ⟨k, hk, hb⟩ := ih
    obtain ⟨m, hm, hc⟩ := hb.of_references hbc
    exact ⟨m, hm.trans hk, hc⟩

theorem HasHeight.not_transGen_self {name : Text} {height : Nat} (h : d.HasHeight name height) :
    ¬Relation.TransGen d.References name name := by
  intro hcycle
  obtain ⟨k, hk, hname⟩ := h.of_transGen hcycle
  have := h.unique hname
  omega

theorem Expands.hasHeight_of_reaches {out name : Text} {height : Nat}
    (h : d.Expands expression out height) (hname : d.Reaches expression name) :
    ∃ k, d.HasHeight name k := by
  obtain ⟨first, hfirst, hto⟩ := hname
  obtain ⟨k, hk, hheight⟩ := h.exists_height hfirst
  rcases Relation.reflTransGen_iff_eq_or_transGen.mp hto with rfl | hto
  · exact ⟨k, hheight⟩
  · obtain ⟨m, hm, hname⟩ := hheight.of_transGen hto
    exact ⟨m, hname⟩

end Grok.Dictionary

namespace Grok.Compiler

/-- A reported cycle is one of the dictionary, and the patterns of an expression that can be
expanded lie on none. -/
theorem expand_reports_real_cycles (c : Compiler) (expression : Text) :
    (∀ participants, c.expand expression = .error (.expansion (.cyclicPattern participants)) →
      c.dictionary.IsCycle participants ∧
        ∃ first, participants.head? = some first ∧ c.dictionary.Reaches expression first) ∧
    ∀ out, c.expand expression = .ok out → ∀ name, c.dictionary.Reaches expression name →
      ¬Relation.TransGen c.dictionary.References name name := by
  constructor
  · intro participants h
    obtain ⟨cause, hcause, he⟩ := expand_eq_error_iff.mp h
    cases he
    exact Dictionary.isCycle_of_expand hcause
  · intro out h name hname
    obtain ⟨height, hheight, hexpands⟩ := Dictionary.expand_eq_ok_iff_expands.mp (expand_eq_ok_iff.mp h)
    obtain ⟨k, hk⟩ := hexpands.hasHeight_of_reaches hname
    exact hk.not_transGen_self

theorem cycle_beside_shared_reference :
    let c : Compiler :=
      { dictionary := .ofList [("TOP", "%{A}"), ("A", "%{B}"), ("B", "x%{C}"), ("C", "%{A:a}"),
          ("DD", "%{D}%{D:d}"), ("D", "[0-9]")]
        engine := Regex.Dialect.backtracking.terse }
    c.expand "%{D} %{TOP}" = .error (.expansion (.cyclicPattern ["A", "B", "C", "A"])) ∧
      c.dictionary.IsCycle ["A", "B", "C", "A"] ∧
      c.expand "%{DD}" = .ok "(?:(?:[0-9])(?P<d>[0-9]))" ∧
      c.dictionary.Reaches "%{DD}" "DD" ∧
      ¬Relation.TransGen c.dictionary.References "DD" "DD" := by
  intro c
  have hcyclic : c.expand "%{D} %{TOP}" =
      .error (.expansion (.cyclicPattern ["A", "B", "C", "A"])) := by cbv
  have hok : c.expand "%{DD}" = .ok "(?:(?:[0-9])(?P<d>[0-9]))" := by cbv
  have hholes : (Template.ofText "%{DD}").holes = ([("DD", "")] : List (Text × Text)) := by cbv
  have hreaches : c.dictionary.Reaches "%{DD}" "DD" := by
    refine ⟨"DD", ⟨⟨"DD", none⟩, "", ⟨by decide, by simp⟩, rfl, ?_⟩, .refl⟩
    rw [hholes]
    exact List.mem_singleton.mpr rfl
  have hcycle := (expand_reports_real_cycles c "%{D} %{TOP}").1 _ hcyclic
  have hacyclic := (expand_reports_real_cycles c "%{DD}").2 _ hok "DD" hreaches
  exact ⟨hcyclic, hcycle.1, hok, hreaches, hacyclic⟩

end Grok.Compiler
