import Grok.Regex.Backtracking.Program
import Grok.Regex.Failure
import Grok.Regex.Linear.Search

namespace Grok.Regex.Backtracking

structure Thread where
  state : Nat
  position : Nat
  slots : Array (Option Nat)
  /-- How many branches were open at each mark, the last mark first. -/
  marks : List Nat
deriving Inhabited

structure Branch where
  thread : Thread
  below : Nat
deriving Inhabited

inductive Step where
  | go (thread : Thread) (branches : List Branch)
  | back (branches : List Branch)
  | found (slots : Array (Option Nat))
  | giveUp (failure : Failure)

def height : List Branch → Nat
  | [] => 0
  | b :: _ => b.below + 1

def maxBranches : Nat := 1000000

def maxBacktracks : Nat := 1000000

def fork (thread other : Thread) (branches : List Branch) : Step :=
  let n := height branches
  if n < maxBranches then .go thread (⟨other, n⟩ :: branches) else .giveUp .tooManyChoices

def standsAt (text : Array Char) (i : Nat) : Text → Bool
  | [] => true
  | c :: rest => text[i]? == some c && standsAt text (i + 1) rest

namespace Thread

def get (t : Thread) (slot : Nat) : Option Nat := (t.slots[slot]?).join

def put (t : Thread) (slot : Nat) (value : Option Nat) : Thread :=
  { t with slots := t.slots.setIfInBounds slot value }

def goTo (t : Thread) (state : Nat) : Thread := { t with state := state }

def putGroups (t : Thread) (captured : Linear.Slots) (groups : List Nat) : Thread :=
  (groups.zipIdx 1).foldl
    (fun t (group, i) =>
      (t.put (2 * group) (captured[2 * i]?).join).put (2 * group + 1) (captured[2 * i + 1]?).join)
    t

end Thread

def step (p : Program) (text : Array Char) (start : Nat) (t : Thread) (branches : List Branch) :
    Step :=
  let goTo (t : Thread) (state : Nat) : Step := .go (t.goTo state) branches
  let check (holds : Bool) (next : Nat) : Step := if holds then goTo t next else .back branches
  match p.insts[t.state]? with
  | none | some .fail => .back branches
  | some .accept =>
    let first := (t.get 0).getD 0
    let stop := (t.get 1).getD 0
    .found (t.put 0 (some (min first stop))).slots
  | some (.any newline next) =>
    match text[t.position]? with
    | some c =>
      if newline || c ≠ '\n' then goTo { t with position := t.position + 1 } next
      else .back branches
    | none => .back branches
  | some (.text s next) =>
    if standsAt text t.position s then goTo { t with position := t.position + s.length } next
    else .back branches
  | some (.look assertion next) => check (assertion.holds text t.position) next
  | some (.linear program groups next) =>
    match program.matchAt? text t.position with
    | none => .back branches
    | some captured =>
      let position := ((captured[1]?).join).getD t.position
      goTo { t.putGroups captured groups with position := position } next
  | some (.split first second) => fork (t.goTo first) (t.goTo second) branches
  | some (.save slot next) => goTo (t.put slot (some t.position)) next
  | some (.restore slot next) => goTo { t with position := (t.get slot).getD 0 } next
  | some (.reset counter next) => goTo (t.put counter (some 0)) next
  | some (.count least most greedy counter body next) =>
    let n := (t.get counter).getD 0
    if most = some n then goTo t next
    else
      let t := t.put counter (some (n + 1))
      if n < least then goTo t body
      else if greedy then fork (t.goTo body) (t.goTo next) branches
      else fork (t.goTo next) (t.goTo body) branches
  | some (.countMoving least greedy counter last body next) =>
    let n := (t.get counter).getD 0
    if least < n && t.get last = some t.position then .back branches
    else
      let t := t.put counter (some (n + 1))
      if n < least then goTo t body
      else
        let t := t.put last (some t.position)
        if greedy then fork (t.goTo body) (t.goTo next) branches
        else fork (t.goTo next) (t.goTo body) branches
  | some (.goBack count next) =>
    if count ≤ t.position then goTo { t with position := t.position - count } next
    else .back branches
  | some (.failBefore next) =>
    .back ((branches.dropWhile fun b => b.thread.state != next).drop 1)
  | some (.backref group next) =>
    match t.get (2 * group), t.get (2 * group + 1) with
    | some first, some stop =>
      let captured := (text.extract first stop).toList
      if first ≤ stop && standsAt text t.position captured then
        goTo { t with position := t.position + captured.length } next
      else .back branches
    | _, _ => .back branches
  | some (.captured group next) => check (t.get (2 * group)).isSome next
  | some (.mark next) => goTo { t with marks := height branches :: t.marks } next
  | some (.cut next) =>
    let n := t.marks.headD 0
    .go { t with state := next, marks := t.marks.drop 1 } (branches.dropWhile fun b => n ≤ b.below)
  | some (.searchStart next) => check (t.position ≤ start) next

def run (p : Program) (text : Array Char) (start : Nat) :
    Nat → Nat → Thread → List Branch → Except Failure (Option (Array (Option Nat)))
  | 0, _, _, _ => .error .tooManyBacktracks
  | n + 1, left, t, branches =>
    match step p text start t branches with
    | .go t branches => run p text start n left t branches
    | .found slots => .ok (some slots)
    | .giveUp failure => .error failure
    | .back [] => .ok none
    | .back (b :: branches) =>
      match left with
      | 0 => .error .tooManyBacktracks
      | left + 1 => run p text start n left b.thread branches

namespace Program

def maxSteps (p : Program) (text : Array Char) : Nat :=
  (maxBacktracks + 1) * (p.insts.size + 1) * (text.size + 2)

def findFrom? (p : Program) (text : Array Char) (start : Nat) :
    Except Failure (Option (Array (Option Nat))) :=
  run p text start (p.maxSteps text) maxBacktracks
    ⟨p.start, start, Array.replicate p.slots none, []⟩ []

end Program

end Grok.Regex.Backtracking
