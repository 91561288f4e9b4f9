import Grok.Proofs.Expansion.Path
import Grok.Proofs.Expansion.Unfolding

namespace Grok

namespace Dictionary

inductive Nested (d : Dictionary) (expression : Text) : List Text → Text → Prop
  | outermost : Nested d expression [] expression
  | inside {path : List Text} {text name definition : Text}
      (houter : Nested d expression path text) (hname : Mentions text name)
      (hdef : d.get? name = some definition) : Nested d expression (name :: path) definition

inductive Told (d : Dictionary) (expression : Text) (o : Occurrence) : Text → Prop
  | outermost (hpath : o.path = []) (htext : o.text = expression) :
      Told d expression o
        ("表达式「" ++ expression ++ "」中的 " ++ Placeholder.written o.body)
  | inside {name : Text} {path : List Text} (hpath : o.path = name :: path)
      (hdef : d.get? name = some o.text) (hreaches : d.Reaches expression name) :
      Told d expression o
        ("模式 " ++ name ++ " 的定义「" ++ o.text ++ "」中的 " ++ Placeholder.written o.body)

structure PointsAt (d : Dictionary) (expression : Text) (place : Place) (o : Occurrence) : Prop where
  nested : d.Nested expression o.path o.text
  found : ∃ following, (o.body, following) ∈ (Template.ofText o.text).holes
  token : place.token = Placeholder.written o.body
  told : d.Told expression o place.message

variable {d : Dictionary} {limit : Nat} {path : List Text} {text expression : Text}
  {holes : List (Text × Text)} {address : List Nat} {o : Occurrence} {e : ExpansionError}

theorem Trail.nested (h : d.Trail limit expression path text) : d.Nested expression path text := by
  induction h with
  | start => exact .outermost
  | enter htrail hhole henter ih =>
    exact .inside ih (mentions_of_hole henter.valid henter.body hhole) henter.defined

theorem Trail.told (h : d.Trail limit expression o.path o.text) :
    d.Told expression o o.place.message := by
  obtain ⟨path, text, body⟩ := o
  cases h with
  | start => exact .outermost rfl rfl
  | enter htrail hhole henter =>
    have hmentions := mentions_of_hole henter.valid henter.body hhole
    exact .inside rfl henter.defined (htrail.reaches hmentions)

theorem lt_of_prefix_ne {a b : List Nat} (h : a <+: b) (hne : a ≠ b) : a < b := by
  induction a generalizing b with
  | nil =>
    cases b with
    | nil => exact absurd rfl hne
    | cons j below => exact .nil
  | cons i a ih =>
    obtain ⟨below, rfl⟩ := h
    apply List.Lex.cons
    apply ih (List.prefix_append a below)
    intro heq
    exact hne (congrArg (i :: ·) heq)

theorem trail_of_occurrenceIn? (h : d.occurrenceIn? path text holes address = some o)
    (htrail : d.Trail limit expression path text)
    (hholes : ∀ hole ∈ holes, hole ∈ (Template.ofText text).holes)
    (habove : ∀ above, above <+: address → above ≠ address →
      ∀ e, ¬d.FaultIn limit path text holes above e) :
    d.Trail limit expression o.path o.text ∧
      ∃ following, (o.body, following) ∈ (Template.ofText o.text).holes := by
  induction address generalizing path text holes with
  | nil => cases h
  | cons i address ih =>
    cases address with
    | nil =>
      obtain ⟨hole, hhole, rfl⟩ := Option.map_eq_some_iff.mp h
      exact ⟨htrail, hole.2, hholes _ (List.mem_of_getElem? hhole)⟩
    | cons j below =>
      obtain ⟨hole, hhole, h⟩ := Option.bind_eq_some_iff.mp h
      obtain ⟨p, hparse, h⟩ := Option.bind_eq_some_iff.mp h
      obtain ⟨definition, hdef, h⟩ := Option.bind_eq_some_iff.mp h
      have hfault : ∀ e, ¬Occurrence.Fault d limit ⟨path, text, hole.1⟩ e := by
        intro e hfault
        apply habove [i] ⟨j :: below, rfl⟩ (by simp) e
        exact ⟨_, by rw [occurrenceIn?, hhole, Option.map_some], hfault⟩
      have henter : Occurrence.Enters d limit ⟨path, text, hole.1⟩ p definition := by
        cases hc : d.check limit ⟨path, text, hole.1⟩ with
        | error e => exact absurd (check_eq_error_iff.mp hc) (hfault e)
        | ok entered =>
          obtain ⟨q, own⟩ := entered
          have henter := check_eq_ok_iff.mp hc
          have hread := Placeholder.parse?_eq_some_iff.mpr ⟨henter.valid, henter.body⟩
          obtain rfl : p = q := Option.some.inj (hparse.symm.trans hread)
          obtain rfl : definition = own := Option.some.inj (hdef.symm.trans henter.defined)
          exact henter
      have hinside := htrail.enter (hholes _ (List.mem_of_getElem? hhole)) henter
      apply ih h hinside (fun _ hole => hole)
      rintro above hprefix hne e ⟨o', ho', hfault⟩
      have haddress : d.occurrenceIn? path text holes (i :: above) = some o' := by
        cases above with
        | nil => cases ho'
        | cons k above => simp only [occurrenceIn?, hhole, Option.bind_some, hparse, hdef, ho']
      apply habove (i :: above) (List.cons_prefix_cons.mpr ⟨rfl, hprefix⟩)
      · intro heq
        exact hne (List.cons.inj heq).2
      · exact ⟨o', haddress, hfault⟩

theorem exists_first_fault (h : d.expand limit expression = .error e) :
    ∃ address o, IsLeast {a | ∃ e', d.FaultAt limit expression a e'} address ∧
      d.occurrenceAt? expression address = some o ∧ o.Fault d limit e ∧
        d.Trail limit expression o.path o.text ∧
          ∃ following, (o.body, following) ∈ (Template.ofText o.text).holes := by
  obtain ⟨address, hleast, o, ho, hfault⟩ := expand_eq_error_iff_firstFault.mp h
  refine ⟨address, o, hleast, ho, hfault, ?_⟩
  apply trail_of_occurrenceIn? ho .start (fun _ hole => hole)
  intro above hprefix hne e' hf
  have hle : address ≤ above := hleast.2 ⟨e', hf⟩
  exact absurd (lt_of_prefix_ne hprefix hne) (not_lt_of_ge hle)

end Dictionary

def ExpansionError.place? : ExpansionError → Option Place
  | .invalidPlaceholder place => some place
  | .undefinedPattern _ place => some place
  | .cyclicPattern _ => none
  | .tooDeep _ place => some place

theorem Occurrence.Fault.place?_eq {d : Dictionary} {limit : Nat} {o : Occurrence}
    {e : ExpansionError} (h : o.Fault d limit e) {place : Place} (hplace : e.place? = some place) :
    place = o.place := by
  cases h with
  | cyclic => cases hplace
  | invalid => exact (Option.some.inj hplace).symm
  | undefined => exact (Option.some.inj hplace).symm
  | tooDeep => exact (Option.some.inj hplace).symm

namespace Compiler

/-- The location in an error is that of the first placeholder at fault: it quotes the expression or the
definition that the placeholder stands in, under the name of the pattern that it defines. An undefined
name is the one that the placeholder gives, and the limit is exceeded behind as many definitions, of as
many patterns, as it allows. -/
theorem errors_point_at_first_fault (c : Compiler) (expression : Text) {cause : ExpansionError}
    {place : Place} (h : c.expand expression = .error (.expansion cause))
    (hplace : cause.place? = some place) :
    ∃ address o, IsLeast {a | ∃ e, c.dictionary.FaultAt c.maxDepth expression a e} address ∧
      c.dictionary.occurrenceAt? expression address = some o ∧
      c.dictionary.PointsAt expression place o ∧
      (cause = .invalidPlaceholder place → ∀ p : Placeholder, p.Valid → p.body ≠ o.body) ∧
      (∀ name, cause = .undefinedPattern name place →
        name ∉ c.dictionary.names ∧ ∃ p : Placeholder, p.Valid ∧ p.body = o.body ∧ p.name = name) ∧
      ∀ n, cause = .tooDeep n place →
        n = c.maxDepth ∧ o.path.length = c.maxDepth ∧ o.path.Nodup := by
  obtain ⟨cause', hcause, heq⟩ := expand_eq_error_iff.mp h
  obtain rfl : cause = cause' := Error.expansion.inj heq
  obtain ⟨address, o, hleast, ho, hfault, htrail, hfound⟩ := Dictionary.exists_first_fault hcause
  obtain rfl := hfault.place?_eq hplace
  have hpoints : c.dictionary.PointsAt expression o.place o :=
    ⟨htrail.nested, hfound, rfl, htrail.told⟩
  refine ⟨address, o, hleast, ho, hpoints, ?_, ?_, ?_⟩
  · rintro rfl
    cases hfault with
    | invalid hbody => exact hbody
  · rintro name rfl
    cases hfault with
    | undefined hvalid hbody hname => exact ⟨hname, _, hvalid, hbody, rfl⟩
  · rintro n rfl
    cases hfault with
    | tooDeep hvalid hbody hname hpath hlimit =>
      have hlength := htrail.length_le_limit
      exact ⟨rfl, le_antisymm hlength hlimit, htrail.nodup⟩

theorem limit_exceeded_behind_sibling :
    let c : Compiler :=
      { dictionary := .ofList [("A", "%{C}<%{B:b}>"), ("B", "[0-9]%{C:c}"), ("C", "c%{D}"), ("D", "d")]
        engine := Regex.Dialect.backtracking.terse
        maxDepth := 3 }
    let place : Place := ⟨.definition "C" "c%{D}", "%{D}"⟩
    c.expand "%{C}%{A} %{NOPE}" = .error (.expansion (.tooDeep 3 place)) ∧
      ∃ o, c.dictionary.PointsAt "%{C}%{A} %{NOPE}" place o ∧ o.path.length = 3 ∧ o.path.Nodup := by
  intro c place
  have h : c.expand "%{C}%{A} %{NOPE}" = .error (.expansion (.tooDeep 3 place)) := by cbv
  obtain ⟨address, o, -, -, hpoints, -, -, hdeep⟩ := errors_point_at_first_fault c _ h rfl
  obtain ⟨-, hlength, hnodup⟩ := hdeep 3 rfl
  exact ⟨h, o, hpoints, hlength, hnodup⟩

end Compiler

end Grok
