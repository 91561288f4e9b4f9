import Grok.Proofs.Expansion.Concatenation
import Grok.Proofs.Expansion.Layout
import Grok.Proofs.Expansion.Limit

namespace Grok

open Template

def Template.FoundBetween (text before body after : Text) : Prop :=
  ∃ (lead following : Text) (holes rest : List (Text × Text)),
    ofText text = ⟨lead, holes ++ (body, following) :: rest⟩ ∧
      before = toText ⟨lead, holes⟩ ∧ after = toText ⟨following, rest⟩

theorem Template.FoundBetween.splits {text before body after : Text}
    (h : FoundBetween text before body after) :
    text = before ++ (Placeholder.written body ++ after) ∧ ¬HasOpener (ofText before).trail ∧
      '}' ∉ body := by
  obtain ⟨lead, following, holes, rest, hcut, rfl, rfl⟩ := h
  obtain ⟨hcut', htext⟩ := ofText_eq_iff.mp hcut
  obtain ⟨hbefore, htrail, hbody⟩ := hcut'.before_hole
  rw [toText_append_hole] at htext
  exact ⟨htext.symm, by rwa [hbefore.ofText_toText], hbody⟩

namespace Dictionary

variable {d : Dictionary} {limit : Nat} {before after definition out : Text} {p : Placeholder}

theorem expand_written_eq_ok_iff (hp : p.Valid) (hbody : '}' ∉ p.body)
    (hdef : d.get? p.name = some definition) :
    d.expand limit (Placeholder.written p.body) = .ok out ↔
      ∃ inner, (∃ height < limit, d.Expands definition inner height) ∧ out = p.wrap inner := by
  have hcut := ofText_written hbody []
  rw [List.append_nil, ofText_nil] at hcut
  rw [expand_eq_ok_iff_expands]
  simp only [Expands, hcut]
  -- the only placeholder of the text is one level above its definition
  constructor
  · rintro ⟨height, hheight, filled, hfills, rfl⟩
    cases hfills with
    | @cons q _ _ own inner _ _ below _ hq hq' hown hinner hrest =>
      cases hrest
      obtain rfl := hq.eq_of_body_eq hp hq'
      obtain rfl : own = definition := Option.some.inj (hown.symm.trans hdef)
      exact ⟨_, ⟨below, by omega, inner, hinner, rfl⟩, by simp⟩
  · rintro ⟨inner, ⟨height, hheight, filled, hfills, rfl⟩, rfl⟩
    exact ⟨_, hheight, _, .cons hp rfl hdef hfills .nil, by simp⟩

theorem expand_around_written_iff (hbefore : ¬HasOpener (ofText before).trail) (hp : p.Valid)
    (hbody : '}' ∉ p.body) (hdef : d.get? p.name = some definition) :
    d.expand limit (before ++ (Placeholder.written p.body ++ after)) = .ok out ↔
      ∃ first inner last, d.expand limit before = .ok first ∧
        (∃ height < limit, d.Expands definition inner height) ∧
        d.expand limit after = .ok last ∧ out = first ++ (p.wrap inner ++ last) := by
  have hcut := ofText_written hbody []
  rw [List.append_nil, ofText_nil] at hcut
  have htrail : ¬HasOpener (ofText (Placeholder.written p.body)).trail := by
    rw [hcut, trail_hole]
    decide
  have hlast : (Placeholder.written p.body).getLast? ≠ some '%' := by
    change (('%' :: '{' :: p.body) ++ ['}']).getLast? ≠ some '%'
    rw [List.getLast?_concat]
    decide
  rw [expand_append_eq_ok_iff hbefore (by simp [Placeholder.written])]
  simp only [expand_append_eq_ok_iff htrail fun h => hlast h.1, expand_written_eq_ok_iff hp hbody hdef]
  constructor
  · rintro ⟨first, _, hfirst, ⟨_, last, ⟨inner, hinner, rfl⟩, hlast, rfl⟩, rfl⟩
    exact ⟨first, inner, last, hfirst, hinner, hlast, rfl⟩
  · rintro ⟨first, inner, last, hfirst, hinner, hlast, rfl⟩
    exact ⟨first, _, hfirst, ⟨_, last, ⟨inner, hinner, rfl⟩, hlast, rfl⟩, rfl⟩

theorem expand_around_wrap_iff (hbefore : ¬HasOpener (ofText before).trail) (hp : p.Valid)
    (hclosed : Closed definition) :
    d.expand limit (before ++ (p.wrap definition ++ after)) = .ok out ↔
      ∃ first inner last, d.expand limit before = .ok first ∧
        (∃ height ≤ limit, d.Expands definition inner height) ∧
        d.expand limit after = .ok last ∧ out = first ++ (p.wrap inner ++ last) := by
  have hpercent := hp.percent_not_mem_header
  have hheader : ¬HasOpener p.header := not_hasOpener_of_not_mem hpercent
  have hclose : ¬HasOpener [')'] := by decide
  have hhead : (p.wrap definition ++ after).head? ≠ some '{' := by
    rw [List.head?_append, p.head?_wrap]
    simp
  have hlast : p.header.getLast? ≠ some '%' := fun h => hpercent (List.mem_of_getLast? h)
  have hsplit : p.wrap definition ++ after =
      p.header ++ (definition ++ ([')'] ++ after)) := by
    rw [p.wrap_eq_header_append]
    simp
  rw [expand_append_eq_ok_iff hbefore (fun h => hhead h.2), hsplit]
  simp only [expand_append_eq_ok_iff (not_hasOpener_trail_of_not_hasOpener hheader) fun h => hlast h.1,
    expand_append_eq_ok_iff hclosed.not_hasOpener_trail (b := [')'] ++ after) (by simp),
    expand_append_eq_ok_iff (not_hasOpener_trail_of_not_hasOpener hclose) (b := after) (by simp),
    expand_of_not_hasOpener hheader, expand_of_not_hasOpener hclose, ← expand_eq_ok_iff_expands,
    Except.ok.injEq]
  constructor
  · rintro ⟨first, _, hfirst, ⟨_, _, rfl, ⟨inner, _, hinner, ⟨_, last, rfl, hlast, rfl⟩, rfl⟩, rfl⟩, rfl⟩
    refine ⟨first, inner, last, hfirst, hinner, hlast, ?_⟩
    simp [p.wrap_eq_header_append]
  · rintro ⟨first, inner, last, hfirst, hinner, hlast, rfl⟩
    refine ⟨first, _, hfirst, ⟨_, _, rfl, ⟨inner, _, hinner, ⟨_, last, rfl, hlast, rfl⟩, rfl⟩, rfl⟩, ?_⟩
    simp [p.wrap_eq_header_append]

end Dictionary

namespace Compiler

/-- A group written by hand around the definition gives the same text. The definition is one level
nearer to the limit than in its placeholder, so that back again the limit is one higher. -/
theorem placeholder_unfolds_by_hand (c : Compiler)
    {expression before body after definition : Text} {p : Placeholder}
    (hfound : Template.FoundBetween expression before body after)
    (hparse : Placeholder.parse? body = some p)
    (hdef : c.dictionary.get? p.name = some definition) (hclosed : Template.Closed definition)
    (limit : Nat) :
    (∀ out, (c.withLimit limit).expand expression = .ok out →
      (c.withLimit limit).expand (before ++ (p.wrap definition ++ after)) = .ok out) ∧
    ∀ out, (c.withLimit limit).expand (before ++ (p.wrap definition ++ after)) = .ok out →
      (c.withLimit (limit + 1)).expand expression = .ok out := by
  obtain ⟨hp, rfl⟩ := Placeholder.parse?_eq_some_iff.mp hparse
  obtain ⟨rfl, hbefore, hbody⟩ := hfound.splits
  simp only [expand_eq_ok_iff, withLimit, Dictionary.expand_around_written_iff hbefore hp hbody hdef,
    Dictionary.expand_around_wrap_iff hbefore hp hclosed]
  constructor
  · rintro out ⟨first, inner, last, hfirst, ⟨height, hheight, hinner⟩, hlast, rfl⟩
    exact ⟨first, inner, last, hfirst, ⟨height, hheight.le, hinner⟩, hlast, rfl⟩
  · rintro out ⟨first, inner, last, hfirst, ⟨height, hheight, hinner⟩, hlast, rfl⟩
    exact ⟨first, inner, last, Dictionary.expand_ok_of_le limit.le_succ hfirst,
      ⟨height, Nat.lt_succ_of_le hheight, hinner⟩, Dictionary.expand_ok_of_le limit.le_succ hlast, rfl⟩

theorem pair_unfolded_under_limits :
    let c : Compiler :=
      { dictionary := .ofList [("PAIR", "%{KEY:k}=%{NUM}%"), ("KEY", "[a-z]+"), ("NUM", "[0-9]")]
        engine := Regex.Dialect.backtracking.terse }
    let out : Text := "%(?:[0-9])\x7b(?P<p>(?P<k>[a-z]+)=(?:[0-9])%){2}%(?:[0-9])"
    (c.withLimit 1).expand "%%{NUM}\x7b(?P<p>%{KEY:k}=%{NUM}%){2}%%{NUM}" = .ok out ∧
      (c.withLimit 2).expand "%%{NUM}\x7b%{PAIR:p}{2}%%{NUM}" = .ok out ∧
      (c.withLimit 2).expand "%%{NUM}\x7b(?P<p>%{KEY:k}=%{NUM}%){2}%%{NUM}" = .ok out := by
  intro c out
  let p : Placeholder := { name := "PAIR", group := some "p" }
  have hfound : Template.FoundBetween "%%{NUM}\x7b%{PAIR:p}{2}%%{NUM}" "%%{NUM}\x7b" "PAIR:p"
      "{2}%%{NUM}" :=
    ⟨"%", "{2}%", [("NUM", "\x7b")], [("NUM", "")], by cbv, by decide, by decide⟩
  have hparse : Placeholder.parse? "PAIR:p" = some p := by decide
  have hdef : c.dictionary.get? p.name = some "%{KEY:k}=%{NUM}%" := by decide
  have hclosed : Template.Closed "%{KEY:k}=%{NUM}%" := by decide
  have hone : (c.withLimit 1).expand "%%{NUM}\x7b(?P<p>%{KEY:k}=%{NUM}%){2}%%{NUM}" = .ok out := by
    rw [expand_withLimit]
    cbv
  have htwo := (placeholder_unfolds_by_hand c hfound hparse hdef hclosed 1).2 out hone
  exact ⟨hone, htwo, (placeholder_unfolds_by_hand c hfound hparse hdef hclosed 2).1 out htwo⟩

end Compiler

end Grok
