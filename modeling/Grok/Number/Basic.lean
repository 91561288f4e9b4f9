import Grok.Text.Basic

namespace Grok

/-- The numbers that a double holds. A finite number is `mantissa * 2 ^ exponent`, with its sign. -/
inductive Number where
  | nan
  | infinite (negative : Bool)
  | finite (negative : Bool) (mantissa : Nat) (exponent : Int)
deriving DecidableEq, Repr, Inhabited

namespace Number

def mantissaBound : Nat := Nat.pow 2 53

def minExponent : Int := -1074

def maxExponent : Int := 971

def roundDiv (a b : Nat) : Nat :=
  let q := a / b
  let r := 2 * (a % b)
  if r < b || (r = b && q % 2 = 0) then q else q + 1

def scaled (a b : Nat) (exponent : Int) : Nat × Nat :=
  match exponent with
  | .ofNat n => (a, b * Nat.pow 2 n)
  | .negSucc n => (a * Nat.pow 2 (n + 1), b)

def exponentOf (a b : Nat) : Int :=
  let guess : Int := (Nat.log2 a : Int) - Nat.log2 b - 53
  let (n, d) := scaled a b guess
  max minExponent (if n / d < mantissaBound then guess else guess + 1)

def ofQuotient (negative : Bool) (a b : Nat) : Number :=
  let exponent := exponentOf a b
  let (n, d) := scaled a b exponent
  let mantissa := roundDiv n d
  let (mantissa, exponent) :=
    if mantissa = mantissaBound then (mantissa / 2, exponent + 1) else (mantissa, exponent)
  if mantissa = 0 then .finite negative 0 0
  else if maxExponent < exponent then .infinite negative
  else .finite negative mantissa exponent

end Number

end Grok
