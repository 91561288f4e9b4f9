import Grok.Placeholder

/-!
A template is an expression cut into literal text and placeholders. A placeholder starts at `%{`
and ends at the next closing brace; text that has no closing brace after its `%{` is literal.
-/

namespace Grok

structure Template where
  lead : Text
  holes : List (Text × Text)
deriving DecidableEq, Repr

namespace Template

def closing? : Text → Option (Text × Text)
  | [] => none
  | c :: rest =>
    if c = '}' then some ([], rest)
    else (closing? rest).map fun (body, after) => (c :: body, after)

theorem length_lt_of_closing? {t body after : Text} (h : closing? t = some (body, after)) :
    after.length < t.length := by
  induction t generalizing body after with
  | nil => simp [closing?] at h
  | cons c rest ih =>
    simp only [closing?] at h
    split at h
    · simp only [Option.some.injEq, Prod.mk.injEq] at h
      simp [h.2]
    · simp only [Option.map_eq_some_iff] at h
      obtain ⟨⟨b, a⟩, ha, hb⟩ := h
      simp only [Prod.mk.injEq] at hb
      have := ih ha
      simp only [List.length_cons, ← hb.2]
      omega

def prepend (t : Text) (template : Template) : Template :=
  { template with lead := t ++ template.lead }

def ofText (t : Text) : Template :=
  match t with
  | [] => ⟨[], []⟩
  | '%' :: '{' :: rest =>
    match h : closing? rest with
    | none => ⟨'%' :: '{' :: rest, []⟩
    | some (body, after) =>
      have := length_lt_of_closing? h
      let following := ofText after
      ⟨[], (body, following.lead) :: following.holes⟩
  | c :: rest => (ofText rest).prepend [c]
termination_by t.length
decreasing_by all_goals simp_all; try omega

def toText (template : Template) : Text :=
  template.lead ++ template.holes.flatMap fun (body, after) => Placeholder.written body ++ after

end Template

end Grok
