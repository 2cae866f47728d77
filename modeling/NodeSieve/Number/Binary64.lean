/-!
# Floating-point numbers

A number of at most 53 binary digits, exactly as a mantissa and a power of two,
together with the two infinities and the value that is no number. Everything
here is computed on whole numbers, so a result is rounded once, at its end.
-/

namespace NodeSieve

/-- A floating-point number; `finite` stands for `mantissa · 2 ^ exponent`
under its sign. -/
inductive Binary64 where
  | nan
  | infinity (negative : Bool)
  | finite (negative : Bool) (mantissa : Nat) (exponent : Int)
deriving DecidableEq, Repr

namespace Binary64

/-- The powers of two and of ten; an exponent below zero counts as zero. -/
def twoTo (exponent : Int) : Nat :=
  Nat.pow 2 exponent.toNat

def tenTo (exponent : Int) : Nat :=
  Nat.pow 10 exponent.toNat

/-- The exponent of the smallest distance between two numbers. -/
def minExponent : Int := -1074

/-- The greatest exponent of a number with a mantissa of 53 digits. -/
def maxExponent : Int := 971

/-- The quotient rounded to the nearest whole number, a half to the even
neighbour. -/
def divNearest (num den : Nat) : Nat :=
  let quotient := num / den
  let twice := 2 * (num % den)
  if twice < den ∨ (twice = den ∧ quotient % 2 = 0) then quotient else quotient + 1

/-- The whole quotient `num / (den · 2 ^ exponent)`, as a pair still to be
divided. -/
def scaleRatio (num den : Nat) (exponent : Int) : Nat × Nat :=
  (num * twoTo (-exponent), den * twoTo exponent)

/-- The exponent under which the quotient has 53 digits, or the least there
is. -/
def ratioExponent (num den : Nat) : Int :=
  let low : Int := (num.log2 : Int) - den.log2 - 53
  let (n, d) := scaleRatio num den low
  max minExponent (if n / d < twoTo 53 then low else low + 1)

/-- The number nearest to a quotient of whole numbers; the denominator is not
zero. -/
def ofRatio (negative : Bool) (num den : Nat) : Binary64 :=
  if num = 0 then .finite negative 0 minExponent
  else
    let exponent := ratioExponent num den
    let (n, d) := scaleRatio num den exponent
    let mantissa := divNearest n d
    let (mantissa, exponent) :=
      if mantissa = twoTo 53 then (twoTo 52, exponent + 1) else (mantissa, exponent)
    if exponent > maxExponent then .infinity negative else .finite negative mantissa exponent

/-- The number nearest to `digits · 10 ^ exponent`. Exponents so low that the
result is zero in any case are told apart first, which keeps the powers of ten
small. -/
def ofDecimal (negative : Bool) (digits : Nat) (exponent : Int) : Binary64 :=
  if digits = 0 ∨ exponent < -((digits.log2 : Int) + 400) then .finite negative 0 minExponent
  else if exponent > 400 then .infinity negative
  else ofRatio negative (digits * tenTo exponent) (tenTo (-exponent))

/-- A finite number as a quotient of whole numbers, without its sign. -/
def magnitude : Binary64 → Nat × Nat
  | .finite _ mantissa exponent => (mantissa * twoTo exponent, twoTo (-exponent))
  | _ => (0, 1)

def isZero : Binary64 → Bool
  | .finite _ mantissa _ => mantissa == 0
  | _ => false

def isInfinite : Binary64 → Bool
  | .infinity _ => true
  | _ => false

def isNegative : Binary64 → Bool
  | .nan => false
  | .infinity negative => negative
  | .finite negative _ _ => negative

/-- The product of two finite numbers that are not negative. -/
def mulMagnitude (a b : Binary64) : Binary64 :=
  ofRatio false (a.magnitude.1 * b.magnitude.1) (a.magnitude.2 * b.magnitude.2)

/-- The quotient of two finite numbers that are not negative; the second is not
zero. -/
def divMagnitude (a b : Binary64) : Binary64 :=
  ofRatio false (a.magnitude.1 * b.magnitude.2) (a.magnitude.2 * b.magnitude.1)

/-- The nearest whole number from zero up to `bound`, a half away from zero.
What is no number counts as zero. -/
def roundClamped (bound : Nat) : Binary64 → Nat
  | .nan => 0
  | .infinity negative => if negative then 0 else bound
  | .finite negative mantissa exponent =>
    if negative then 0
    else
      let (num, den) := magnitude (.finite negative mantissa exponent)
      min bound ((2 * num + den) / (2 * den))

end Binary64

end NodeSieve
