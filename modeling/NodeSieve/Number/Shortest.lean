import NodeSieve.Number.Binary64

/-!
# The text of a floating-point number

A finite number is written with the fewest digits that read back as the number
itself, and in positional notation whatever its size. Digits are looked for on
one grid of powers of ten after the other, the coarsest first: the numbers that
round to the one at hand fill an interval, and the first grid with a point in
it needs the fewest digits.
-/

namespace NodeSieve.Binary64

/-- The decimal `digits · 10 ^ exponent`. -/
structure Decimal where
  digits : Nat
  exponent : Int

/-- The interval of what rounds to a number: `low`, `value` and `high` over the
denominator `den`, its ends included where the mantissa is even. -/
structure Rounding where
  low : Nat
  value : Nat
  high : Nat
  den : Nat
  closed : Bool

/-- The interval around `mantissa · 2 ^ exponent`. Below a power of two numbers
lie half as far apart as above it. -/
def rounding (mantissa : Nat) (exponent : Int) : Rounding :=
  let unit := twoTo exponent
  let below := if mantissa = twoTo 52 ∧ exponent ≠ minExponent then unit else 2 * unit
  { low := 4 * mantissa * unit - below
    value := 4 * mantissa * unit
    high := 4 * mantissa * unit + 2 * unit
    den := 4 * twoTo (-exponent)
    closed := mantissa % 2 == 0 }

namespace Rounding

/-- Whether a multiple of a power of ten lies in the interval. -/
def holds (r : Rounding) (d : Decimal) : Bool :=
  let point := d.digits * tenTo d.exponent * r.den
  let unit := tenTo (-d.exponent)
  if r.closed then r.low * unit ≤ point && point ≤ r.high * unit
  else r.low * unit < point && point < r.high * unit

/-- The point of a grid nearest to the value, if there is one in the
interval. -/
def onGrid? (r : Rounding) (exponent : Int) : Option Decimal :=
  let num := r.value * tenTo (-exponent)
  let den := r.den * tenTo exponent
  let below : Decimal := ⟨num / den, exponent⟩
  let above : Decimal := ⟨num / den + 1, exponent⟩
  let near := if 2 * (num % den) < den then below else above
  let far := if 2 * (num % den) < den then above else below
  if r.holds near then some near else if r.holds far then some far else none

/-- The first point that is found on the grids from an exponent downwards. -/
def search (r : Rounding) : Nat → Int → Option Decimal
  | 0, _ => none
  | grids + 1, exponent =>
    match r.onGrid? exponent with
    | some d => some d
    | none => r.search grids (exponent - 1)

end Rounding

/-- The shortest decimal of a number that is not zero. A number has at most 17
digits, and the first grid lies no more than a few places above its first
one. -/
def shortest? (mantissa : Nat) (exponent : Int) : Option Decimal :=
  (rounding mantissa exponent).search 24 ((exponent + mantissa.log2 + 1) * 3 / 10 + 2)

/-- A decimal in positional notation. -/
def Decimal.render (d : Decimal) : String :=
  let digits := (toString d.digits).toList
  if 0 ≤ d.exponent then String.ofList (digits ++ List.replicate d.exponent.toNat '0')
  else
    let places := (-d.exponent).toNat
    let padded := List.replicate (places + 1 - digits.length) '0' ++ digits
    let point := padded.length - places
    String.ofList (padded.take point ++ '.' :: padded.drop point)

/-- The text of a number. -/
def render : Binary64 → String
  | .nan => "NaN"
  | .infinity negative => (if negative then "-" else "") ++ "inf"
  | .finite negative mantissa exponent =>
    let digits :=
      if mantissa = 0 then "0" else ((shortest? mantissa exponent).map Decimal.render).getD ""
    (if negative then "-" else "") ++ digits

end NodeSieve.Binary64
