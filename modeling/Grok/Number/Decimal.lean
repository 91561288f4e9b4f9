import Grok.Number.Basic

namespace Grok.Number

def ofDigits (digits : Text) : Nat := digits.foldl (fun n c => n * 10 + (c.toNat - 48)) 0

def takeDigits (t : Text) : Text × Text := (t.takeWhile Char.isDigit, t.dropWhile Char.isDigit)

def sign : Text → Bool × Text
  | '-' :: rest => (true, rest)
  | '+' :: rest => (false, rest)
  | t => (false, t)

def power? : Text → Option Int
  | [] => some 0
  | c :: rest =>
    if c = 'e' || c = 'E' then
      let (negative, t) := sign rest
      match takeDigits t with
      | (digit :: digits, []) =>
        let n : Int := ofDigits (digit :: digits)
        some (if negative then -n else n)
      | _ => none
    else none

/-- The number nearest to some digits times a power of ten. Digits whose first place is far outside
the range of doubles are not computed with. -/
def ofDecimal (negative : Bool) (digits : Text) (power : Int) : Number :=
  let digits := digits.dropWhile (· = '0')
  let top : Int := digits.length + power
  if digits.isEmpty || top < -330 then .finite negative 0 0
  else if 330 < top then .infinite negative
  else
    match power with
    | .ofNat n => ofQuotient negative (ofDigits digits * Nat.pow 10 n) 1
    | .negSucc n => ofQuotient negative (ofDigits digits) (Nat.pow 10 (n + 1))

def unsigned? (negative : Bool) (t : Text) : Option Number := do
  let (whole, t) := takeDigits t
  let (fraction, t) :=
    match t with
    | '.' :: t => takeDigits t
    | t => ([], t)
  if whole.isEmpty && fraction.isEmpty then none
  let power ← power? t
  some (ofDecimal negative (whole ++ fraction) (power - fraction.length))

def parse? (t : Text) : Option Number :=
  let (negative, t) := sign t
  let word := t.map Char.toLower
  if word = "inf" || word = "infinity" then some (.infinite negative)
  else if word = "nan" then some .nan
  else unsigned? negative t

end Grok.Number
