import Grok.Compiler
import Grok.Proofs.Expansion.Step
import Grok.Proofs.Template.Cut

namespace Grok

namespace Template

def follow (u : Template) (lead : Text) : List (Text × Text) → Template
  | [] => u.prepend lead
  | (body, following) :: rest =>
    ⟨lead, (body, (u.follow following rest).lead) :: (u.follow following rest).holes⟩

def append (t u : Template) : Template := u.follow t.lead t.holes

variable {a b lead body following : Text} {rest : List (Text × Text)} {t u : Template}

theorem append_literal : append ⟨lead, []⟩ u = u.prepend lead := rfl

theorem append_hole : append ⟨lead, (body, following) :: rest⟩ u =
    ⟨lead, (body, (append ⟨following, rest⟩ u).lead) :: (append ⟨following, rest⟩ u).holes⟩ := rfl

theorem prepend_append : (t.prepend a).append u = (t.append u).prepend a := by
  obtain ⟨lead, holes⟩ := t
  cases holes with
  | nil => simp [prepend, append_literal]
  | cons hole rest => rfl

theorem not_hasOpener_trail_of_prepend (h : ¬HasOpener (t.prepend a).trail) :
    ¬HasOpener t.trail := by
  obtain ⟨lead, holes⟩ := t
  cases holes with
  | nil =>
    intro hopener
    exact h (hasOpener_append.mpr (.inr (.inl hopener)))
  | cons hole rest => exact h

theorem ofText_append (hopener : ¬HasOpener (ofText a).trail)
    (hborder : ¬(a.getLast? = some '%' ∧ b.head? = some '{')) :
    ofText (a ++ b) = (ofText a).append (ofText b) := by
  induction a using ofText_induction with
  | nil =>
    rw [ofText_nil, append_literal, List.nil_append]
    rfl
  | unclosed t h =>
    rw [ofText_unclosed h, trail_literal, hasOpener_cons] at hopener
    simp at hopener
  | placeholder body after hbody ih =>
    rw [ofText_written hbody, trail_hole] at hopener
    have hafter := ih hopener fun ⟨hlast, hhead⟩ =>
      hborder ⟨by rw [List.getLast?_append, hlast, Option.some_or], hhead⟩
    rw [List.append_assoc, ofText_written hbody, ofText_written hbody, append_hole, hafter]
  | literal c t h ih =>
    rw [ofText_cons h] at hopener
    have hrest := ih (not_hasOpener_trail_of_prepend hopener) fun ⟨hlast, hhead⟩ =>
      hborder ⟨by rw [List.getLast?_cons, hlast, Option.getD_some], hhead⟩
    have hc : ¬(c = '%' ∧ (t ++ b).head? = some '{') := by
      rintro ⟨rfl, hhead⟩
      cases t with
      | nil => exact hborder ⟨rfl, hhead⟩
      | cons first t => exact h ⟨rfl, hhead⟩
    rw [List.cons_append, ofText_cons hc, ofText_cons h, hrest, prepend_append]

end Template

def Origin.requoted (expression : Text) : Origin → Origin
  | .expression _ => .expression expression
  | .definition name text => .definition name text

def Place.requoted (expression : Text) (place : Place) : Place :=
  { place with origin := place.origin.requoted expression }

def ExpansionError.requoted (expression : Text) : ExpansionError → ExpansionError
  | .invalidPlaceholder place => .invalidPlaceholder (place.requoted expression)
  | .undefinedPattern name place => .undefinedPattern name (place.requoted expression)
  | .cyclicPattern participants => .cyclicPattern participants
  | .tooDeep limit place => .tooDeep limit (place.requoted expression)

namespace Dictionary

def fill (d : Dictionary) (limit : Nat) (path : List Text) (text : Text) (template : Template) :
    Except ExpansionError Text :=
  (d.expandHoles limit path text template.holes).map (template.lead ++ ·)

variable {d : Dictionary} {limit : Nat} {path : List Text} {text a b lead body following : Text}
  {rest holes : List (Text × Text)} {t u : Template}

theorem fill_literal : d.fill limit path text ⟨lead, []⟩ = .ok lead := by
  rw [fill, expandHoles_nil]
  simp [Except.map]

theorem fill_prepend : d.fill limit path text (t.prepend a) =
    (d.fill limit path text t).map (a ++ ·) := by
  simp only [fill, Template.prepend]
  cases d.expandHoles limit path text t.holes with
  | error e => rfl
  | ok filled => simp [Except.map]

theorem fill_hole : d.fill limit path text ⟨lead, (body, following) :: rest⟩ =
    (d.check limit ⟨path, text, body⟩).bind fun entered =>
      (d.expandWithin limit (entered.1.name :: path) entered.2).bind fun inner =>
        (d.fill limit path text ⟨following, rest⟩).map fun remaining =>
          lead ++ (entered.1.wrap inner ++ remaining) := by
  rw [fill, expandHoles_cons]
  cases d.check limit ⟨path, text, body⟩ with
  | error e => rfl
  | ok entered =>
    cases hinner : d.expandWithin limit (entered.1.name :: path) entered.2 with
    | error e => simp [Except.bind, Except.map, hinner]
    | ok inner =>
      simp only [Except.bind, hinner, fill]
      cases d.expandHoles limit path text rest with
      | error e => rfl
      | ok remaining => simp [Except.map]

theorem fill_append (t u : Template) : d.fill limit path text (t.append u) =
    (d.fill limit path text t).bind fun first => (d.fill limit path text u).map (first ++ ·) := by
  obtain ⟨lead, holes⟩ := t
  induction holes generalizing lead with
  | nil =>
    rw [Template.append_literal, fill_prepend, fill_literal]
    rfl
  | cons hole rest ih =>
    obtain ⟨body, following⟩ := hole
    have hrest := ih following
    rw [Template.append_hole, fill_hole, fill_hole, hrest]
    cases d.check limit ⟨path, text, body⟩ with
    | error e => rfl
    | ok entered =>
      simp only [Except.bind]
      cases d.expandWithin limit (entered.1.name :: path) entered.2 with
      | error e => rfl
      | ok inner =>
        simp only
        cases d.fill limit path text ⟨following, rest⟩ with
        | error e => rfl
        | ok remaining =>
          cases d.fill limit path text u with
          | error e => rfl
          | ok second => simp [Except.map]

theorem expand_of_not_hasOpener (h : ¬Template.HasOpener text) :
    d.expand limit text = .ok text := by
  have hcut : d.expand limit text = d.fill limit [] text (Template.ofText text) := rfl
  rw [hcut, Template.ofText_of_not_hasOpener h, fill_literal]

theorem requoted_of_expandHoles {e : ExpansionError} (hpath : path ≠ [])
    (h : d.expandHoles limit path text holes = .error e) (expression : Text) :
    e.requoted expression = e := by
  induction path, text, holes using expandHoles_induction d limit with
  | nil path text =>
    rw [expandHoles_nil] at h
    cases h
  | fault path text body following rest e' hfault =>
    rw [expandHoles_of_fault hfault] at h
    cases h
    obtain ⟨name, path, rfl⟩ := List.exists_cons_of_ne_nil hpath
    cases hfault with
    | invalid | undefined | cyclic | tooDeep => rfl
  | enter path text body following rest p definition henter ihinner ihrest =>
    rcases (expandHoles_enters_error_iff henter).mp h with hinner | ⟨filled, -, hrest⟩
    · exact ihinner (List.cons_ne_nil _ _) hinner
    · exact ihrest hpath hrest

theorem check_requoted (text expression : Text) : d.check limit ⟨[], expression, body⟩ =
    (d.check limit ⟨[], text, body⟩).mapError (·.requoted expression) := by
  cases hc : d.check limit ⟨[], text, body⟩ with
  | error e =>
    rw [check_eq_error_iff] at hc
    refine check_eq_error_iff.mpr ?_
    cases hc with
    | invalid hbody => exact .invalid hbody
    | undefined hvalid hbody hname => exact .undefined hvalid hbody hname
    | cyclic hvalid hbody hname hpath => exact .cyclic hvalid hbody hname hpath
    | tooDeep hvalid hbody hname hpath hlimit => exact .tooDeep hvalid hbody hname hpath hlimit
  | ok entered =>
    rw [check_eq_ok_iff] at hc
    exact check_eq_ok_iff.mpr ⟨hc.valid, hc.body, hc.defined, hc.fresh, hc.shallow⟩

theorem fill_requoted (text expression : Text) (t : Template) :
    d.fill limit [] expression t =
      (d.fill limit [] text t).mapError (·.requoted expression) := by
  obtain ⟨lead, holes⟩ := t
  induction holes generalizing lead with
  | nil => rw [fill_literal, fill_literal]; rfl
  | cons hole rest ih =>
    obtain ⟨body, following⟩ := hole
    rw [fill_hole, fill_hole, check_requoted text expression, ih following]
    cases d.check limit ⟨[], text, body⟩ with
    | error e => rfl
    | ok entered =>
      simp only [Except.bind, Except.mapError]
      cases hinner : d.expandWithin limit [entered.1.name] entered.2 with
      | error e =>
        have hsame := requoted_of_expandHoles (List.cons_ne_nil _ _)
          (expandWithin_eq_error_iff.mp hinner) expression
        simp [hsame]
      | ok inner =>
        cases d.fill limit [] text ⟨following, rest⟩ with
        | error e => rfl
        | ok remaining => rfl

theorem expand_append (hopener : ¬Template.HasOpener (Template.ofText a).trail)
    (hborder : ¬(a.getLast? = some '%' ∧ b.head? = some '{')) :
    d.expand limit (a ++ b) =
      ((d.expand limit a).bind fun first => (d.expand limit b).map (first ++ ·)).mapError
        (·.requoted (a ++ b)) := by
  have hsplit : d.expand limit (a ++ b) =
      d.fill limit [] (a ++ b) ((Template.ofText a).append (Template.ofText b)) := by
    rw [← Template.ofText_append hopener hborder]
    rfl
  have hfirst : d.expand limit a = d.fill limit [] a (Template.ofText a) := rfl
  have hsecond : d.expand limit b = d.fill limit [] b (Template.ofText b) := rfl
  rw [hsplit, fill_append, fill_requoted a (a ++ b) (Template.ofText a),
    fill_requoted b (a ++ b) (Template.ofText b), ← hfirst, ← hsecond]
  cases d.expand limit a with
  | error e => rfl
  | ok first =>
    cases d.expand limit b with
    | error e => rfl
    | ok second => rfl

theorem expand_append_eq_ok_iff {out : Text}
    (hopener : ¬Template.HasOpener (Template.ofText a).trail)
    (hborder : ¬(a.getLast? = some '%' ∧ b.head? = some '{')) :
    d.expand limit (a ++ b) = .ok out ↔
      ∃ first second, d.expand limit a = .ok first ∧ d.expand limit b = .ok second ∧
        out = first ++ second := by
  rw [expand_append hopener hborder]
  cases d.expand limit a with
  | error e => simp [Except.bind, Except.mapError]
  | ok first =>
    cases d.expand limit b with
    | error e => simp [Except.bind, Except.map, Except.mapError]
    | ok second => simp [Except.bind, Except.map, Except.mapError, eq_comm]

end Dictionary

namespace Compiler

/-- Two texts one after another have the two expansions one after another. If one of them has none, the
error is that of the first one that has none, quoting the whole expression where it quotes one. -/
theorem expansion_distributes_over_concatenation (c : Compiler) {a b : Text}
    (hopener : ¬Template.HasOpener (Template.ofText a).trail)
    (hborder : ¬(a.getLast? = some '%' ∧ b.head? = some '{')) :
    (∀ out, c.expand (a ++ b) = .ok out ↔
      ∃ first second, c.expand a = .ok first ∧ c.expand b = .ok second ∧ out = first ++ second) ∧
    (∀ e, c.expand a = .error e → ∃ cause, e = .expansion cause ∧
      c.expand (a ++ b) = .error (.expansion (cause.requoted (a ++ b)))) ∧
    ∀ first e, c.expand a = .ok first → c.expand b = .error e → ∃ cause, e = .expansion cause ∧
      c.expand (a ++ b) = .error (.expansion (cause.requoted (a ++ b))) := by
  refine ⟨fun out => ?_, fun e ha => ?_, fun first e ha hb => ?_⟩
  · simp only [expand_eq_ok_iff]
    exact Dictionary.expand_append_eq_ok_iff hopener hborder
  · obtain ⟨cause, hcause, rfl⟩ := expand_eq_error_iff.mp ha
    refine ⟨cause, rfl, expand_eq_error_iff.mpr ⟨_, ?_, rfl⟩⟩
    rw [Dictionary.expand_append hopener hborder, hcause]
    rfl
  · obtain ⟨cause, hcause, rfl⟩ := expand_eq_error_iff.mp hb
    refine ⟨cause, rfl, expand_eq_error_iff.mpr ⟨_, ?_, rfl⟩⟩
    rw [Dictionary.expand_append hopener hborder, expand_eq_ok_iff.mp ha, hcause]
    rfl

theorem percent_sign_before_placeholder :
    let c : Compiler :=
      { dictionary := .ofList [("A", "x%{B}"), ("B", "[0-9]")], engine := Regex.Dialect.backtracking.terse }
    let place : Place := ⟨.expression "\x7b%{A:n}%%{B}\x7b%{NOPE}", "%{NOPE}"⟩
    c.expand "\x7b%{A:n}%" = .ok "\x7b(?P<n>x(?:[0-9]))%" ∧
      c.expand "\x7b%{A:n}%%{B}{2}" = .ok "\x7b(?P<n>x(?:[0-9]))%(?:[0-9]){2}" ∧
      c.expand "\x7b%{A:n}%%{B}\x7b%{NOPE}" =
        .error (.expansion (.undefinedPattern "NOPE" place)) := by
  intro c place
  have hfirst : c.expand "\x7b%{A:n}%" = .ok "\x7b(?P<n>x(?:[0-9]))%" := by cbv
  have hsecond : c.expand "%{B}{2}" = .ok "(?:[0-9]){2}" := by cbv
  have hfails : c.expand "%{B}\x7b%{NOPE}" =
      .error (.expansion (.undefinedPattern "NOPE" ⟨.expression "%{B}\x7b%{NOPE}", "%{NOPE}"⟩)) := by
    cbv
  have htrail : (Template.ofText "\x7b%{A:n}%").trail = ("%" : Text) := by cbv
  have hopener : ¬Template.HasOpener (Template.ofText "\x7b%{A:n}%").trail := by
    rw [htrail]
    decide
  obtain ⟨hok, -, -⟩ :=
    expansion_distributes_over_concatenation c (b := "%{B}{2}") hopener (by decide)
  obtain ⟨-, -, herror⟩ :=
    expansion_distributes_over_concatenation c (b := "%{B}\x7b%{NOPE}") hopener (by decide)
  obtain ⟨cause, hcause, happend⟩ := herror _ _ hfirst hfails
  cases hcause
  exact ⟨hfirst, (hok _).mpr ⟨_, _, hfirst, hsecond, rfl⟩, happend⟩

end Compiler

end Grok
