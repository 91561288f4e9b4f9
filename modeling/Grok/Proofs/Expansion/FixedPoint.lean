import Grok.Proofs.Dictionary.Lookup
import Grok.Proofs.Expansion.Concatenation
import Grok.Proofs.Expansion.Layout
import Grok.Proofs.Expansion.Reachability
import Grok.Proofs.Pattern.Compiled

namespace Grok

open Template

namespace Placeholder

theorem Valid.not_hasOpener_wrap {p : Placeholder} (hp : p.Valid) {expanded : Text}
    (h : ¬HasOpener expanded) : ¬HasOpener (p.wrap expanded) := by
  have hheader := hp.percent_not_mem_header
  rw [wrap_eq_header_append, hasOpener_append, hasOpener_append]
  rintro (hopener | (hopener | hopener | ⟨-, hbrace⟩) | ⟨hpercent, -⟩)
  · exact not_hasOpener_of_not_mem hheader hopener
  · exact h hopener
  · exact absurd hopener (by decide)
  · exact absurd hbrace (by decide)
  · exact hheader (List.mem_of_getLast? hpercent)

end Placeholder

namespace Dictionary

variable {d : Dictionary} {limit : Nat} {expression lead out : Text} {holes : List (Text × Text)}
  {height : Nat}

theorem Fills.not_hasOpener (h : d.Fills holes out height) (hcut : IsCut ⟨lead, holes⟩)
    (htrail : ¬HasOpener (trail ⟨lead, holes⟩))
    (hdefs : ∀ name definition, d.HolesReach holes name → d.get? name = some definition →
      Closed definition) : ¬HasOpener (lead ++ out) := by
  induction h generalizing lead with
  | nil =>
    rw [List.append_nil]
    exact htrail
  | @cons p body following definition inner out rest below height hvalid hbody hdef hinner hrest
      ihinner ihrest =>
    cases hcut with
    | hole hlead hbrace hcut =>
      rw [trail_hole] at htrail
      have hdefinition : Closed definition := hdefs _ _ (.head hvalid hbody) hdef
      have hbelow := ihinner (isCut_ofText definition) hdefinition.not_hasOpener_trail
        fun name own hname => hdefs name own (.below hvalid hbody hdef hname)
      have hnext := ihrest hcut htrail fun name own hname => hdefs name own hname.next
      rw [List.append_assoc, hasOpener_append, hasOpener_append]
      rintro (hopener | (hopener | hopener | ⟨hpercent, -⟩) | ⟨-, hbrace⟩)
      · exact hlead hopener
      · exact hvalid.not_hasOpener_wrap hbelow hopener
      · exact hnext hopener
      · rw [Placeholder.getLast?_wrap] at hpercent
        exact absurd hpercent (by decide)
      · rw [List.head?_append, Placeholder.head?_wrap, Option.some_or] at hbrace
        exact absurd hbrace (by decide)

theorem not_hasOpener_of_expand (h : d.expand limit expression = .ok out)
    (hclosed : Closed expression)
    (hdefs : ∀ name definition, d.Reaches expression name → d.get? name = some definition →
      Closed definition) : ¬HasOpener out := by
  obtain ⟨height, -, filled, hfills, rfl⟩ := expand_eq_ok_iff_expands.mp h
  apply hfills.not_hasOpener (isCut_ofText expression) hclosed.not_hasOpener_trail
  intro name definition hname
  exact hdefs name definition (reaches_iff_holesReach.mpr hname)

end Dictionary

namespace Compiler

/-- If each `%{` of an expression and of the definitions that it leads to has a closing brace behind it,
then its expansion has no `%{`. By any compiler it is expanded into itself, and a compiler with the
same engine makes of it what the expression is compiled into. -/
theorem expansion_is_fixed_point (c : Compiler) {expression out : Text}
    (hexpand : c.expand expression = .ok out) (hclosed : Closed expression)
    (hdefs : ∀ name definition, c.dictionary.Reaches expression name →
      c.dictionary.get? name = some definition → Closed definition) :
    ¬HasOpener out ∧ ∀ c' : Compiler, c'.expand out = .ok out ∧
      (c'.engine = c.engine →
        ((∃ q, (c'.compile out).result = .ok q) ↔ ∃ p, (c.compile expression).result = .ok p) ∧
        ∀ p q, (c.compile expression).result = .ok p → (c'.compile out).result = .ok q →
          q.source = p.source ∧ q.groups = p.groups) := by
  have hopener := Dictionary.not_hasOpener_of_expand (expand_eq_ok_iff.mp hexpand) hclosed hdefs
  refine ⟨hopener, fun c' => ?_⟩
  have hexpand' : c'.expand out = .ok out :=
    expand_eq_ok_iff.mpr (Dictionary.expand_of_not_hasOpener hopener)
  refine ⟨hexpand', fun hengine => ?_⟩
  rw [result_compile hexpand, result_compile hexpand', hengine]
  cases hregex : c.engine.compile out with
  | error message => simp
  | ok regex =>
    refine ⟨⟨fun _ => ⟨_, rfl⟩, fun _ => ⟨_, rfl⟩⟩, ?_⟩
    rintro p q hp hq
    cases hp
    cases hq
    exact ⟨rfl, rfl⟩

theorem percent_signs_and_braces_at_borders :
    let c : Compiler :=
      { dictionary := .ofList [("A", "%"), ("B", "[\x7b]%{A:_}%")]
        engine := Regex.Dialect.linear.terse }
    let out : Text := "%(?:%)[\x7b]%(?:[\x7b](?P<_>%)%)[\x7b]"
    c.expand "%%{A}[\x7b]%%{B}[\x7b]" = .ok out ∧ Closed "%%{A}[\x7b]%%{B}[\x7b]" ∧
      (∀ name definition, c.dictionary.Reaches "%%{A}[\x7b]%%{B}[\x7b]" name →
        c.dictionary.get? name = some definition → Closed definition) ∧
      ∃ p, (c.compile "%%{A}[\x7b]%%{B}[\x7b]").result = .ok p ∧ p.hasGroup "_" = true ∧
        ∀ c' : Compiler, c'.engine = Regex.Dialect.linear.terse → c'.expand out = .ok out ∧
          ∃ q, (c'.compile out).result = .ok q ∧ q.source = p.source ∧ q.groups = p.groups := by
  intro c out
  have hexpand : c.expand "%%{A}[\x7b]%%{B}[\x7b]" = .ok out := by cbv
  have hclosed : Closed "%%{A}[\x7b]%%{B}[\x7b]" := by decide
  have hall : ∀ entry ∈ c.dictionary.entries, Closed entry.2 := by decide
  have hdefs : ∀ name definition, c.dictionary.Reaches "%%{A}[\x7b]%%{B}[\x7b]" name →
      c.dictionary.get? name = some definition → Closed definition :=
    fun name definition _ hdef => hall _ (Dictionary.mem_entries_iff.mpr hdef)
  let names : List (Option Text) := [none, some "_"]
  have hcompile : (Regex.compile? .linear out).map (·.names) = some names := by decide +kernel
  obtain ⟨r, hr, hnames⟩ := Option.map_eq_some_iff.mp hcompile
  have hp : (c.compile "%%{A}[\x7b]%%{B}[\x7b]").result = .ok ⟨"%%{A}[\x7b]%%{B}[\x7b]", r⟩ :=
    result_compile_of_dialect rfl hexpand hr
  have hgroup : some ("_" : Text) ∈ r.names := by
    rw [hnames]
    decide
  refine ⟨hexpand, hclosed, hdefs, _, hp, Pattern.hasGroup_iff.mpr hgroup, fun c' hengine => ?_⟩
  obtain ⟨hexpand', hsame⟩ := (expansion_is_fixed_point c hexpand hclosed hdefs).2 c'
  obtain ⟨hiff, hequal⟩ := hsame hengine
  obtain ⟨q, hq⟩ := hiff.mpr ⟨_, hp⟩
  exact ⟨hexpand', q, hq, hequal _ q hp hq⟩

end Compiler

end Grok
