import Std.Data.TreeSet
import Grok.Regex.Linear.Program

/-!
Running a program of the linear dialect. The branches that are still to be tried stand on a stack,
the preferred one on top. A split that has been reached at a position once is never tried there
again: the first attempt has failed, or it would have ended the search. So the number of steps is
linear in the length of the text.
-/

namespace Grok.Regex.Linear

abbrev Slots := Array (Option Nat)

structure Thread where
  state : Nat
  position : Nat
  slots : Slots
deriving Inhabited

namespace Program

def maxSteps (p : Program) (text : Array Char) (starts : Nat) : Nat :=
  (2 * p.insts.size * (text.size + 1) + starts + 1) * (p.insts.size + 2)

def run (p : Program) (text : Array Char) :
    Nat → Std.TreeSet Nat → List Thread → Option Slots
  | 0, _, _ => none
  | _, _, [] => none
  | n + 1, seen, t :: rest =>
    match p.insts[t.state]? with
    | none | some .fail => run p text n seen rest
    | some .accept => some t.slots
    | some (.chars set next) =>
      match text[t.position]? with
      | none => run p text n seen rest
      | some c =>
        if set.contains c then run p text n seen (⟨next, t.position + 1, t.slots⟩ :: rest)
        else run p text n seen rest
    | some (.look look next) =>
      if look.holds text t.position then run p text n seen ({ t with state := next } :: rest)
      else run p text n seen rest
    | some (.save slot next) =>
      let slots := t.slots.setIfInBounds slot (some t.position)
      run p text n seen (⟨next, t.position, slots⟩ :: rest)
    | some (.split first second) =>
      let place := t.state * (text.size + 1) + t.position
      if seen.contains place then run p text n seen rest
      else
        run p text n (seen.insert place)
          ({ t with state := first } :: { t with state := second } :: rest)

def matchFrom? (p : Program) (text : Array Char) (starts : List Nat) : Option Slots :=
  let slots := Array.replicate p.slots none
  p.run text (p.maxSteps text starts.length) ∅ (starts.map fun i => ⟨p.start, i, slots⟩)

def matchAt? (p : Program) (text : Array Char) (i : Nat) : Option Slots := p.matchFrom? text [i]

def find? (p : Program) (text : Array Char) : Option Slots :=
  p.matchFrom? text (List.range (text.size + 1))

end Program

end Grok.Regex.Linear
