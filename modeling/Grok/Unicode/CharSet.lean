import Grok.Text.Basic

namespace Grok

structure CharSet where
  ranges : Array (Nat × Nat)
deriving DecidableEq, Repr, Inhabited

namespace CharSet

def joinRanges (lo hi : Nat) : List (Nat × Nat) → List (Nat × Nat)
  | [] => [(lo, hi)]
  | (lo', hi') :: rest =>
    if lo' ≤ hi + 1 then joinRanges lo (max hi hi') rest else (lo, hi) :: joinRanges lo' hi' rest

def ofRanges (ranges : List (Nat × Nat)) : CharSet :=
  match ranges.mergeSort fun a b => a.1 ≤ b.1 with
  | [] => ⟨#[]⟩
  | (lo, hi) :: rest => ⟨(joinRanges lo hi rest).toArray⟩

def empty : CharSet := ⟨#[]⟩

instance : EmptyCollection CharSet := ⟨empty⟩

def singleton (c : Char) : CharSet := ⟨#[(c.toNat, c.toNat)]⟩

def range (first last : Char) : CharSet := .ofRanges [(first.toNat, last.toNat)]

def full : CharSet := ⟨#[(0, 0xD7FF), (0xE000, 0x10FFFF)]⟩

def search (ranges : Array (Nat × Nat)) (n lo hi : Nat) : Bool :=
  if lo < hi then
    let mid := (lo + hi) / 2
    match ranges[mid]? with
    | none => false
    | some (first, last) =>
      if n < first then search ranges n lo mid
      else if last < n then search ranges n (mid + 1) hi
      else true
  else false
termination_by hi - lo
decreasing_by all_goals omega

def containsCode (s : CharSet) (n : Nat) : Bool := search s.ranges n 0 s.ranges.size

def contains (s : CharSet) (c : Char) : Bool := s.containsCode c.toNat

def union (s t : CharSet) : CharSet := .ofRanges (s.ranges.toList ++ t.ranges.toList)

def unionAll (sets : List CharSet) : CharSet := .ofRanges (sets.flatMap (·.ranges.toList))

def gaps (last bound : Nat) : List (Nat × Nat) → List (Nat × Nat)
  | [] => if bound ≤ last then [(bound, last)] else []
  | (lo, hi) :: rest =>
    if bound < lo then (bound, lo - 1) :: gaps last (hi + 1) rest else gaps last (hi + 1) rest

def compl (s : CharSet) : CharSet :=
  .ofRanges (gaps 0x10FFFF 0 (ofRanges ((0xD800, 0xDFFF) :: s.ranges.toList)).ranges.toList)

def inter (s t : CharSet) : CharSet := (s.compl.union t.compl).compl

def diff (s t : CharSet) : CharSet := s.inter t.compl

def symmDiff (s t : CharSet) : CharSet := (s.diff t).union (t.diff s)

def hexValue (c : Char) : Nat :=
  if c.isDigit then c.toNat - 48 else if 'a' ≤ c then c.toNat - 87 else c.toNat - 55

/-- Reads a table of ranges: hexadecimal code points, the two ends of a range joined by a hyphen,
with spaces or line breaks between the ranges. -/
def ofTable (table : String) : CharSet :=
  let (ranges, first, n, any) := table.toList.foldl
    (fun (ranges, first, n, any) c =>
      if c = ' ' || c = '\n' then
        (if any then (first.getD n, n) :: ranges else ranges, none, 0, false)
      else if c = '-' then (ranges, some n, 0, true)
      else (ranges, first, n * 16 + hexValue c, true))
    (([] : List (Nat × Nat)), (none : Option Nat), 0, false)
  .ofRanges (if any then (first.getD n, n) :: ranges else ranges)

end CharSet

end Grok
