import Grok.Proofs.Dictionary.Lookup
import Grok.Proofs.Expansion.Derivation

/-!
Dictionaries whose references go down. In each round the patterns are settled whose definitions have
placeholders for settled patterns only, so that the number of the round bounds the height of their
expansions. If all patterns are settled at last, then every text that keeps to the dictionary has an
expansion.
-/

namespace Grok

def KeepsTo (names : List Text) (text : Text) : Prop :=
  ∀ hole ∈ (Template.ofText text).holes,
    ∃ p : Placeholder, p.Valid ∧ p.body = hole.1 ∧ p.name ∈ names

theorem keepsTo_iff {names : List Text} {text : Text} :
    KeepsTo names text ↔ ∀ hole ∈ (Template.ofText text).holes,
      ∃ p ∈ Placeholder.parse? hole.1, p.name ∈ names := by
  simp only [KeepsTo, Option.mem_def, Placeholder.parse?_eq_some_iff, and_assoc]

instance (names : List Text) (text : Text) : Decidable (KeepsTo names text) :=
  decidable_of_iff _ keepsTo_iff.symm

namespace Dictionary

def settled (d : Dictionary) : Nat → List Text
  | 0 => []
  | n + 1 => (d.entries.filter fun entry => KeepsTo (d.settled n) entry.2).map (·.1)

variable {d : Dictionary} {limit n : Nat} {names : List Text} {name expression : Text}
  {holes : List (Text × Text)}

theorem exists_fills (hnames : ∀ name ∈ names, ∃ k < n, d.HasHeight name k)
    (hholes : ∀ hole ∈ holes, ∃ p : Placeholder, p.Valid ∧ p.body = hole.1 ∧ p.name ∈ names) :
    ∃ out height, height ≤ n ∧ d.Fills holes out height := by
  induction holes with
  | nil => exact ⟨[], 0, Nat.zero_le n, .nil⟩
  | cons hole rest ih =>
    obtain ⟨hhole, hrest⟩ := List.forall_mem_cons.mp hholes
    obtain ⟨p, hvalid, hbody, hname⟩ := hhole
    obtain ⟨k, hk, definition, inner, hdef, filled, hfilled, -⟩ := hnames p.name hname
    obtain ⟨out, height, hheight, hout⟩ := ih hrest
    have hle : max (k + 1) height ≤ n := by omega
    exact ⟨_, _, hle, .cons hvalid hbody hdef hfilled hout⟩

theorem exists_expands (hnames : ∀ name ∈ names, ∃ k < n, d.HasHeight name k)
    (h : KeepsTo names expression) : ∃ out height, height ≤ n ∧ d.Expands expression out height := by
  obtain ⟨filled, height, hheight, hfilled⟩ := exists_fills hnames h
  exact ⟨_, height, hheight, filled, hfilled, rfl⟩

theorem exists_hasHeight_of_settled (h : name ∈ d.settled n) : ∃ k < n, d.HasHeight name k := by
  induction n generalizing name with
  | zero => simp [settled] at h
  | succ n ih =>
    simp only [settled, List.mem_map, List.mem_filter, decide_eq_true_eq] at h
    obtain ⟨⟨own, definition⟩, ⟨hentry, hkeeps⟩, rfl⟩ := h
    obtain ⟨out, height, hheight, hexpands⟩ := exists_expands (fun _ => ih) hkeeps
    exact ⟨height, Nat.lt_succ_of_le hheight, definition, out, mem_entries_iff.mp hentry, hexpands⟩

/-- A text that keeps to the dictionary may name patterns of the last round, whose expansions its own
placeholders enclose once more. -/
theorem expand_of_keepsTo (hsettled : ∀ name ∈ d.names, name ∈ d.settled n) (hlimit : n ≤ limit)
    (h : KeepsTo d.names expression) : ∃ out, d.expand limit expression = .ok out := by
  have hnames : ∀ name ∈ d.names, ∃ k < n, d.HasHeight name k :=
    fun name hname => exists_hasHeight_of_settled (hsettled name hname)
  obtain ⟨out, height, hheight, hexpands⟩ := exists_expands hnames h
  exact ⟨out, expand_eq_ok_iff_expands.mpr ⟨height, hheight.trans hlimit, hexpands⟩⟩

end Dictionary

end Grok
