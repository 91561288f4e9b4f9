import Grok.Proofs.Expansion.Cycle
import Grok.Proofs.Expansion.Reachability

namespace Grok

namespace Dictionary

variable {d d' : Dictionary} {limit : Nat} {path : List Text} {text expression : Text}
  {holes : List (Text × Text)}

theorem check_congr {o : Occurrence}
    (h : ∀ p : Placeholder, p.Valid → p.body = o.body → d'.get? p.name = d.get? p.name) :
    d'.check limit o = d.check limit o := by
  unfold check
  cases hparse : Placeholder.parse? o.body with
  | none => rfl
  | some p =>
    obtain ⟨hvalid, hbody⟩ := Placeholder.parse?_eq_some_iff.mp hparse
    simp only [h p hvalid hbody]

theorem expandHoles_congr (h : ∀ name, d.HolesReach holes name → d'.get? name = d.get? name) :
    d'.expandHoles limit path text holes = d.expandHoles limit path text holes := by
  induction path, text, holes using expandHoles_induction d limit with
  | nil path text => rw [expandHoles_nil, expandHoles_nil]
  | fault path text body following rest e hfault =>
    have hcheck : d'.check limit ⟨path, text, body⟩ = d.check limit ⟨path, text, body⟩ :=
      check_congr fun p hvalid hbody => h p.name (.head hvalid hbody)
    have hfault' : Occurrence.Fault d' limit ⟨path, text, body⟩ e :=
      check_eq_error_iff.mp (hcheck.trans (check_eq_error_iff.mpr hfault))
    rw [expandHoles_of_fault hfault, expandHoles_of_fault hfault']
  | enter path text body following rest p definition henter ihinner ihrest =>
    have hcheck : d'.check limit ⟨path, text, body⟩ = d.check limit ⟨path, text, body⟩ :=
      check_congr fun p hvalid hbody => h p.name (.head hvalid hbody)
    have henter' : Occurrence.Enters d' limit ⟨path, text, body⟩ p definition :=
      check_eq_ok_iff.mp (hcheck.trans (check_eq_ok_iff.mpr henter))
    have hinner := ihinner fun name hname =>
      h name (.below henter.valid henter.body henter.defined hname)
    have hrest := ihrest fun name hname => h name hname.next
    rw [expandHoles_of_enters henter, expandHoles_of_enters henter', expandWithin_eq,
      expandWithin_eq, hinner, hrest]

theorem expand_congr (h : ∀ name, d.Reaches expression name → d'.get? name = d.get? name) :
    d'.expand limit expression = d.expand limit expression := by
  unfold expand
  rw [expandWithin_eq, expandWithin_eq, expandHoles_congr]
  intro name hname
  exact h name (reaches_iff_holesReach.mpr hname)

theorem expand_of_extends
    (h : ∀ name definition, d.get? name = some definition → d'.get? name = some definition)
    {out : Text} (hout : d.expand limit expression = .ok out) :
    d'.expand limit expression = .ok out := by
  obtain ⟨height, hheight, hexpands⟩ := expand_eq_ok_iff_expands.mp hout
  rw [expand_congr, hout]
  intro name hname
  -- the expression has an expansion, so that none of the patterns it leads to is undefined
  obtain ⟨k, definition, inner, hdef, hinner⟩ := hexpands.hasHeight_of_reaches hname
  rw [hdef, h name definition hdef]

end Dictionary

namespace Compiler

def withDictionary (c : Compiler) (d : Dictionary) : Compiler := { c with dictionary := d }

theorem expand_withDictionary {c : Compiler} {d : Dictionary} {expression : Text} :
    (c.withDictionary d).expand expression =
      (d.expand c.maxDepth expression).mapError .expansion := rfl

/-- An expansion depends on the entries that the expression leads to and on no others. -/
theorem expand_reads_reached_entries_only (c : Compiler) (d : Dictionary) (expression : Text) :
    ((∀ name, c.dictionary.Reaches expression name → d.get? name = c.dictionary.get? name) →
      (c.withDictionary d).expand expression = c.expand expression) ∧
    ((∀ name, d.get? name ≠ c.dictionary.get? name →
        ¬c.dictionary.Reaches expression name ∨ isPatternName name = false) →
      (c.withDictionary d).expand expression = c.expand expression) ∧
    ((∀ name definition, c.dictionary.get? name = some definition →
        d.get? name = some definition) →
      ∀ out, c.expand expression = .ok out → (c.withDictionary d).expand expression = .ok out) := by
  refine ⟨?_, ?_, ?_⟩
  · intro h
    rw [expand_withDictionary, Dictionary.expand_congr h, Compiler.expand]
  · intro h
    rw [expand_withDictionary, Dictionary.expand_congr, Compiler.expand]
    intro name hname
    by_contra hne
    rcases h name hne with hunreached | hword
    · exact hunreached hname
    · rw [hname.isPatternName] at hword
      cases hword
  · intro h out hout
    rw [expand_withDictionary, Dictionary.expand_of_extends h (expand_eq_ok_iff.mp hout)]
    rfl

theorem nested_pair_among_other_entries :
    let c : Compiler :=
      { dictionary := .ofList [("A", "%{B:b}"), ("B", "[0-9]"), ("X", "x")]
        engine := Regex.Dialect.backtracking.terse }
    let changed : Dictionary :=
      .ofList [("A", "%{B:b}"), ("B", "[0-9]"), ("X", "%{Y}"), ("a b", "%{X}")]
    let extended : Dictionary :=
      .ofList [("A", "%{B:b}"), ("B", "[0-9]"), ("X", "x"), ("Y", "%{Y}")]
    let e : Except Error Text :=
      .error (.expansion (.invalidPlaceholder ⟨.expression "%{A}%{}", "%{}"⟩))
    c.expand "%{A}%{}" = e ∧ (c.withDictionary changed).expand "%{A}%{}" = e ∧
      (∀ name, changed.get? name ≠ c.dictionary.get? name →
        ¬c.dictionary.Reaches "%{A}%{}" name ∨ isPatternName name = false) ∧
      (c.withDictionary extended).expand "%{A}%{X}" = .ok "(?:(?P<b>[0-9]))(?:x)" := by
  intro c changed extended e
  have herror : c.expand "%{A}%{}" = e := by cbv
  have hok : c.expand "%{A}%{X}" = .ok "(?:(?P<b>[0-9]))(?:x)" := by cbv
  have hA : c.dictionary.get? "A" = some ("%{B:b}" : Text) := by cbv
  have hB : c.dictionary.get? "B" = some ("[0-9]" : Text) := by cbv
  have hreached : ∀ name, c.dictionary.Reaches "%{A}%{}" name →
      changed.get? name = c.dictionary.get? name := by
    have hstart : mentioned "%{A}%{}" = (["A"] : List Text) := by cbv
    have hbelow : mentioned "%{B:b}" = (["B"] : List Text) := by cbv
    have hnone : mentioned "[0-9]" = ([] : List Text) := by cbv
    intro name hname
    have hmem : name ∈ (["A", "B"] : List Text) := by
      apply hname.mem_of_closed
      · rw [hstart]
        simp
      · intro a ha definition hdef
        rcases List.mem_pair.mp ha with rfl | rfl
        · obtain rfl := Option.some.inj (hA.symm.trans hdef)
          rw [hbelow]
          simp
        · obtain rfl := Option.some.inj (hB.symm.trans hdef)
          rw [hnone]
          simp
    rcases List.mem_pair.mp hmem with rfl | rfl
    · cbv
    · cbv
  have hdiffer : ∀ name, changed.get? name ≠ c.dictionary.get? name →
      ¬c.dictionary.Reaches "%{A}%{}" name ∨ isPatternName name = false :=
    fun name hne => .inl fun hname => hne (hreached name hname)
  have hextends : ∀ name definition, c.dictionary.get? name = some definition →
      extended.get? name = some definition := by
    intro name definition hdef
    have hnames : c.dictionary.names = (["A", "B", "X"] : List Text) := by cbv
    have hmem := Dictionary.mem_names_of_get? hdef
    rw [hnames] at hmem
    rw [← hdef]
    simp only [List.mem_cons, List.not_mem_nil, or_false] at hmem
    rcases hmem with rfl | rfl | rfl
    · cbv
    · cbv
    · cbv
  have hchanged := expand_reads_reached_entries_only c changed "%{A}%{}"
  have hextended := expand_reads_reached_entries_only c extended "%{A}%{X}"
  exact ⟨herror, (hchanged.1 hreached).trans herror, hdiffer, hextended.2.2 hextends _ hok⟩

end Compiler

end Grok
