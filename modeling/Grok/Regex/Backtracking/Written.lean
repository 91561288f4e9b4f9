import Grok.Regex.Backtracking.Expr

namespace Grok.Regex.Backtracking

def quoted (c : Char) : Text :=
  if c ∈ ("\\.+*?()|[]\x7b\x7d^$#" : Text) then ['\\', c] else [c]

def enclosed (needed : Bool) (t : Text) : Text := if needed then "(?:" ++ t ++ ")" else t

def folded (ignoreCase : Bool) (t : Text) : Text := if ignoreCase then "(?i:" ++ t ++ ")" else t

def repetition (least : Nat) (most : Option Nat) (greedy : Bool) : Text :=
  let sign : Text :=
    match least, most with
    | 0, some 1 => "?"
    | 0, none => "*"
    | 1, none => "+"
    | least, none => "\x7b" ++ Text.ofNat least ++ ",\x7d"
    | least, some most =>
      if least = most then "\x7b" ++ Text.ofNat least ++ "\x7d"
      else "\x7b" ++ Text.ofNat least ++ "," ++ Text.ofNat most ++ "\x7d"
  if greedy then sign else sign ++ "?"

def writtenLook : Look → Text
  | .textStart => "^"
  | .textEnd => "$"
  | .lineStart => "(?m:^)"
  | .lineEnd => "(?m:$)"
  | _ => []

inductive Tightness where
  | outermost
  | alternative
  | item
  | repeated
deriving DecidableEq, Repr, Ord

namespace Expr

mutual

def written (around : Tightness) : Expr → Text
  | .any newline => if newline then "(?s:.)" else "."
  | .look assertion => writtenLook assertion
  | .char c fold => folded fold (quoted c)
  | .chars source fold => folded fold source
  | .seq items =>
    enclosed (around == .item || around == .repeated) (writtenAll items)
  | .choice alternatives => enclosed (around != .outermost) (writtenAny alternatives)
  | .group _ body => "(" ++ body.written .outermost ++ ")"
  | .loop least most greedy body =>
    enclosed (around == .repeated) (body.written .repeated ++ repetition least most greedy)
  | _ => []

def writtenAll : List Expr → Text
  | [] => []
  | e :: es => e.written .item ++ writtenAll es

def writtenAny : List Expr → Text
  | [] => []
  | [e] => e.written .alternative
  | e :: es => e.written .alternative ++ "|" ++ writtenAny es

end

end Expr

end Grok.Regex.Backtracking
