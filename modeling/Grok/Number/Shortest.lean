import Grok.Number.Basic

/-!
Writing numbers with the fewest decimal digits that read back as the same number; of several such
texts the nearest one is written, of two equally near ones the greater. There is no exponent: zeros
are written out.
-/

namespace Grok.Number

/-- The quotients that round to a finite number lie between two bounds. All are given as numerators
over one denominator. The bounds themselves round to it if its mantissa is even. -/
structure Interval where
  value : Nat
  low : Nat
  high : Nat
  denominator : Nat
  closed : Bool

def interval (mantissa : Nat) (exponent : Int) : Interval :=
  let (unit, denominator) :=
    match exponent with
    | .ofNat n => (Nat.pow 2 n, 1)
    | .negSucc n => (1, Nat.pow 2 (n + 1))
  let isEdge := 2 * mantissa = mantissaBound && minExponent < exponent
  let value := 4 * mantissa * unit
  ⟨value, value - (if isEdge then unit else 2 * unit), value + 2 * unit, 4 * denominator,
    mantissa % 2 = 0⟩

namespace Interval

def has (i : Interval) (n : Nat) : Bool :=
  if i.closed then i.low ≤ n && n ≤ i.high else i.low < n && n < i.high

def times (i : Interval) (n : Nat) : Interval :=
  let scale := Nat.pow 10 n
  { i with value := i.value * scale, low := i.low * scale, high := i.high * scale }

def nearest? (i : Interval) (unit : Nat) : Option Nat :=
  let below := i.value / unit
  let above := below + 1
  match i.has (below * unit), i.has (above * unit) with
  | false, false => none
  | true, false => some below
  | false, true => some above
  | true, true => some (if 2 * (i.value % unit) < unit then below else above)

def onGrid? (i : Interval) (power : Int) : Option Nat :=
  match power with
  | .ofNat n => i.nearest? (i.denominator * Nat.pow 10 n)
  | .negSucc n => (i.times (n + 1)).nearest? i.denominator

def shortest (i : Interval) : Nat → Int → Nat × Int
  | 0, power => (i.value / i.denominator, power)
  | n + 1, power =>
    match i.onGrid? power with
    | some digits => if digits = 0 then shortest i n (power - 1) else (digits, power)
    | none => shortest i n (power - 1)

end Interval

def shortestDigits (mantissa : Nat) (exponent : Int) : Nat × Int :=
  let top := ((Nat.log2 mantissa : Int) + exponent + 1) * 30103 / 100000 + 1
  (interval mantissa exponent).shortest 25 top

def positional (digits : Nat) (power : Int) : Text :=
  let t := Text.ofNat digits
  match power with
  | .ofNat n => t ++ List.replicate n '0'
  | .negSucc n =>
    let places := n + 1
    let t := List.replicate (places + 1 - t.length) '0' ++ t
    t.take (t.length - places) ++ '.' :: t.drop (t.length - places)

def toText : Number → Text
  | .nan => "NaN"
  | .infinite negative => if negative then "-inf" else "inf"
  | .finite negative mantissa exponent =>
    let sign : Text := if negative then "-" else []
    if mantissa = 0 then sign ++ "0"
    else
      let (digits, power) := shortestDigits mantissa exponent
      sign ++ positional digits power

end Grok.Number
