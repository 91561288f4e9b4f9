import Grok.Proofs.Text.Trim
import Grok.Regex.Linear.Escape
import Grok.Text.Quoted

/-!
Reading quoted texts. Each character can be read back from the way it stands between quotes, whatever
follows it, and a quote never stands there unescaped. So a quoted text tells where it ends, and no two
texts are quoted alike.
-/

namespace Grok.Text

open Regex.Linear (hexNumber)

theorem hexNumber_hex (n : Nat) : hexNumber (hex n) = n := by
  have hdigit : ∀ d < 16, CharSet.hexValue (Nat.digitChar d) = d := by decide
  induction n using Nat.strong_induction_on with
  | _ n ih =>
    rw [hex, Nat.toDigits_eq_if (by decide)]
    split
    next hn => simp [hexNumber, hdigit n hn]
    next hn =>
      have hrest := ih (n / 16) (by omega)
      rw [hexNumber, hex] at hrest
      rw [hexNumber, List.foldl_append, hrest]
      simp only [List.foldl_cons, List.foldl_nil, hdigit (n % 16) (by omega)]
      omega

theorem closing_not_mem_hex (n : Nat) : ∀ c ∈ hex n, (c != '}') = true := by
  have hdigit : ∀ d < 16, (Nat.digitChar d != '}') = true := by decide
  induction n using Nat.strong_induction_on with
  | _ n ih =>
    rw [hex, Nat.toDigits_eq_if (by decide)]
    split
    next hn =>
      intro c hc
      rw [List.mem_singleton.mp hc]
      exact hdigit n hn
    next hn =>
      intro c hc
      rcases List.mem_append.mp hc with hc | hc
      · exact ih (n / 16) (by omega) c hc
      · rw [List.mem_singleton.mp hc]
        exact hdigit (n % 16) (by omega)

def shortEscapes : List (Char × Char) :=
  [('0', '\x00'), ('t', '\t'), ('r', '\r'), ('n', '\n'), ('\\', '\\'), ('\x22', '\x22')]

def unescape? : Text → Option (Char × Text)
  | [] => none
  | '\\' :: 'u' :: '{' :: rest =>
    some (.ofNat (hexNumber (rest.takeWhile (· != '}'))), (rest.dropWhile (· != '}')).drop 1)
  | '\\' :: [] => none
  | '\\' :: letter :: rest => (shortEscapes.lookup letter).map (·, rest)
  | c :: rest => if c = '\x22' then none else some (c, rest)

theorem unescape?_plain {c : Char} (hslash : c ≠ '\\') (hquote : c ≠ '\x22') (rest : Text) :
    unescape? (c :: rest) = some (c, rest) := by
  unfold unescape?
  split <;> simp_all

theorem unescape?_numbered (c : Char) (rest : Text) :
    unescape? ('\\' :: 'u' :: '{' :: (hex c.toNat ++ '}' :: rest)) = some (c, rest) := by
  have hclosed : ∀ d, ('}' :: rest).head? = some d → (d != '}') = false := by simp
  rw [unescape?, takeWhile_append_of_boundary (closing_not_mem_hex _) hclosed,
    dropWhile_append_of_boundary (closing_not_mem_hex _) hclosed, hexNumber_hex, Char.ofNat_toNat]
  rfl

theorem unescape?_escape (c : Char) (rest : Text) :
    unescape? (escape c ++ rest) = some (c, rest) := by
  unfold escape
  split_ifs with hnull htab hreturn hfeed hslash hquote
  · rw [hnull]
    rfl
  · rw [htab]
    rfl
  · rw [hreturn]
    rfl
  · rw [hfeed]
    rfl
  · rw [hslash]
    rfl
  · rw [hquote]
    rfl
  · exact unescape?_plain hslash hquote rest
  · simpa using unescape?_numbered c rest

theorem escape_append_inj {c d : Char} {x y : Text} (h : escape c ++ x = escape d ++ y) :
    c = d ∧ x = y := by
  have hread := congrArg unescape? h
  rw [unescape?_escape, unescape?_escape] at hread
  simpa using hread

theorem escape_append_ne_quote (c : Char) (x y : Text) : escape c ++ x ≠ '\x22' :: y := by
  intro h
  have hread := congrArg unescape? h
  rw [unescape?_escape] at hread
  cases hread

theorem quote_append (t rest : Text) :
    quote t ++ rest = '\x22' :: (t.flatMap escape ++ '\x22' :: rest) := by
  simp [quote]

theorem quote_append_inj {t t' rest rest' : Text} (h : quote t ++ rest = quote t' ++ rest') :
    t = t' ∧ rest = rest' := by
  rw [quote_append, quote_append, List.cons.injEq] at h
  replace h := h.2
  induction t generalizing t' with
  | nil =>
    cases t' with
    | nil => simpa using h
    | cons d t' =>
      rw [List.flatMap_cons, List.append_assoc] at h
      exact absurd h.symm (escape_append_ne_quote _ _ _)
  | cons c t ih =>
    cases t' with
    | nil =>
      rw [List.flatMap_cons, List.append_assoc] at h
      exact absurd h (escape_append_ne_quote _ _ _)
    | cons d t' =>
      rw [List.flatMap_cons, List.flatMap_cons, List.append_assoc, List.append_assoc] at h
      obtain ⟨rfl, hrest⟩ := escape_append_inj h
      obtain ⟨rfl, hend⟩ := ih hrest
      exact ⟨rfl, hend⟩

end Grok.Text
