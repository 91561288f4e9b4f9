import Grok.Regex.Linear.Escape
import Grok.Unicode.CaseFold

namespace Grok.Regex.Linear

def perlSet (flags : Flags) (letter : Char) : CharSet :=
  if flags.unicode then
    match letter with
    | 'd' => Unicode.Category.decimalNumber.chars
    | 's' => Unicode.Property.whiteSpace
    | _ => Unicode.Property.word
  else
    match letter with
    | 'd' => .ofTable "30-39"
    | 's' => .ofTable "9-D 20"
    | _ => .ofTable "30-39 41-5A 5F 61-7A"

def negate (flags : Flags) (set : CharSet) : CharSet :=
  if flags.unicode then set.compl else .ofRanges (CharSet.gaps 0xFF 0 set.ranges.toList)

def closeAscii (set : CharSet) : CharSet :=
  let upper := (CharSet.range 'A' 'Z').inter set
  let lower := (CharSet.range 'a' 'z').inter set
  let shift (f : Nat → Nat) (s : CharSet) : CharSet :=
    .ofRanges (s.ranges.toList.map fun (lo, hi) => (f lo, f hi))
  .unionAll [set, shift (· + 32) upper, shift (· - 32) lower]

def fold (flags : Flags) (set : CharSet) : CharSet :=
  if !flags.ignoreCase then set
  else if flags.unicode then Unicode.CaseFold.close set else closeAscii set

/-- Ignores case, then negates. Without Unicode, only ASCII characters may be left. -/
def foldAndNegate (flags : Flags) (negated : Bool) (set : CharSet) : Option CharSet :=
  let set := fold flags set
  let set := if negated then negate flags set else set
  if flags.unicode || set.ranges.all fun range => range.2 < 128 then some set else none

def perlClass (flags : Flags) (letter : Char) (negated : Bool) : Option CharSet :=
  let set := perlSet flags letter
  let set := if negated then negate flags set else set
  if flags.unicode || set.ranges.all fun range => range.2 < 128 then some set else none

inductive SetOp where
  | intersection
  | difference
  | symmetricDifference

def SetOp.apply (s t : CharSet) : SetOp → CharSet
  | .intersection => s.inter t
  | .difference => s.diff t
  | .symmetricDifference => s.symmDiff t

structure ClassPart where
  set : CharSet
  height : Nat

structure ClassUnion where
  set : CharSet := ∅
  size : Nat := 0
  height : Nat := 0

namespace ClassUnion

def push (items : ClassUnion) (set : CharSet) (height : Nat) : ClassUnion :=
  ⟨items.set.union set, items.size + 1, max items.height height⟩

def part (items : ClassUnion) : ClassPart :=
  ⟨items.set, if items.size ≤ 1 then items.height else items.height + 1⟩

def finish (flags : Flags) (left : Option (SetOp × ClassPart)) (items : ClassUnion) : ClassPart :=
  let right := items.part
  match left with
  | none => right
  | some (op, left) =>
    ⟨op.apply (fold flags left.set) (fold flags right.set), 1 + max left.height right.height⟩

end ClassUnion

def asciiClass? (flags : Flags) (t : Text) : Option (CharSet × Text) :=
  match t with
  | ':' :: rest =>
    let (negated, rest) :=
      match rest with
      | '^' :: rest => (true, rest)
      | _ => (false, rest)
    match cutAt? ":" rest with
    | some (name, ']' :: rest) =>
      (ClassName.ascii? name).map fun set =>
        let set := fold flags set
        (if negated then negate flags set else set, rest)
    | _ => none
  | _ => none

def classPrimitive (flags : Flags) : Text → Option (Primitive × Text)
  | [] => none
  | '\\' :: rest => escape flags rest
  | c :: rest => some (.literal c false, rest)

def itemSet (flags : Flags) : Primitive → Option CharSet
  | .literal c isByte =>
    if flags.unicode || c.toNat < 128 || isByte then some (.singleton c) else none
  | .perl letter negated => perlClass flags letter negated
  | .unicode set negated => foldAndNegate flags negated set
  | .look _ => none

def classRange (flags : Flags) (t : Text) : Option (CharSet × Text) := do
  let (first, rest) ← classPrimitive flags t
  let rest := flags.skip rest
  match rest with
  | [] => none
  | '-' :: after =>
    let next := (flags.skip after).head?
    if next = some ']' || next = some '-' then (itemSet flags first).map (·, rest)
    else
      let (last, rest) ← classPrimitive flags (flags.skip after)
      match first, last with
      | .literal a aByte, .literal b bByte =>
        let valid (c : Char) (isByte : Bool) := flags.unicode || c.toNat < 128 || isByte
        if valid a aByte && valid b bByte && a ≤ b then some (.range a b, rest) else none
      | _, _ => none
  | _ => (itemSet flags first).map (·, rest)

def leadingHyphens (flags : Flags) : Nat → ClassUnion → Text → ClassUnion × Text
  | n + 1, items, '-' :: rest =>
    leadingHyphens flags n (items.push (.singleton '-') 0) (flags.skip rest)
  | _, items, t => (items, t)

mutual

def bracketed (flags : Flags) : Nat → Text → Option (ClassPart × Text)
  | 0, _ => none
  | n + 1, t => do
    let t := flags.skip t
    let (negated, t) :=
      match t with
      | '^' :: rest => (true, flags.skip rest)
      | _ => (false, t)
    let (items, t) := leadingHyphens flags t.length {} t
    let (items, t) :=
      match t with
      | ']' :: rest =>
        if items.size = 0 then (items.push (.singleton ']') 0, flags.skip rest) else (items, t)
      | _ => (items, t)
    let (part, rest) ← classItems flags n none items t
    let set ← foldAndNegate flags negated part.set
    some (⟨set, part.height + 1⟩, rest)

def classItems (flags : Flags) (steps : Nat) (left : Option (SetOp × ClassPart))
    (items : ClassUnion) (t : Text) : Option (ClassPart × Text) :=
  match steps with
  | 0 => none
  | n + 1 =>
    let operator (op : SetOp) (rest : Text) :=
      classItems flags n (some (op, items.finish flags left)) {} rest
    match flags.skip t with
    | [] => none
    | '[' :: rest =>
      match asciiClass? flags rest with
      | some (set, rest) =>
        if flags.unicode || set.ranges.all fun range => range.2 < 128 then
          classItems flags n left (items.push set 0) rest
        else none
      | none =>
        match bracketed flags n rest with
        | none => none
        | some (part, rest) => classItems flags n left (items.push part.set part.height) rest
    | ']' :: rest => some (items.finish flags left, rest)
    | '&' :: '&' :: rest => operator .intersection rest
    | '-' :: '-' :: rest => operator .difference rest
    | '~' :: '~' :: rest => operator .symmetricDifference rest
    | t =>
      match classRange flags t with
      | none => none
      | some (set, rest) => classItems flags n left (items.push set 0) rest

end

end Grok.Regex.Linear
